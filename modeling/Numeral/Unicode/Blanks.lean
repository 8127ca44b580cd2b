import Numeral.Unicode.Ranges

namespace Numeral.Unicode

/-- The characters that may surround the text of a number. -/
def blanks : Ranges := [
    (0x9, 0xd), (0x1c, 0x20), (0x85, 0x85), (0xa0, 0xa0), (0x1680, 0x1680), (0x2000, 0x200a),
    (0x2028, 0x2029), (0x202f, 0x202f), (0x205f, 0x205f), (0x3000, 0x3000)]

end Numeral.Unicode
