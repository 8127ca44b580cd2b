import Numeral.Session
import Numeral.Proofs.Canonical
import Numeral.Proofs.FloatWriting
import Numeral.Proofs.Supplying
import Numeral.Proofs.Integers
import Numeral.Proofs.ErrorPosition
import Numeral.Proofs.Validity
import Numeral.Proofs.Records
import Numeral.Proofs.Building
import Numeral.Proofs.Relevance
import Numeral.Proofs.Shortest
import Numeral.Proofs.Precision
import Numeral.Proofs.ErrorKind
import Numeral.Proofs.PointColumn
import Numeral.Proofs.SortOrder
import Numeral.Proofs.Separators
import Numeral.Proofs.ExplicitFill
import Numeral.Proofs.Registers
import Numeral.Proofs.ZeroFlag
import Numeral.Proofs.Merging
import Numeral.Proofs.MergedCalls
import Numeral.Proofs.PlainNumbers
import Numeral.Proofs.ShortestDigits
import Numeral.Proofs.Labels
