import VersionedSite.Text.Quoted
import VersionedSite.Decimal.Numeral

/-!
# Percent coding

Texts as parts of a URL. A byte that may not stand there is written as a percent sign and two
digits of base sixteen; the bytes are those of UTF-8.
-/

namespace VersionedSite.Text

/-- The bytes that stand for themselves: letters, digits and three signs. -/
def isPlainByte (n : Nat) : Bool :=
  (48 ≤ n && n ≤ 57) || (65 ≤ n && n ≤ 90) || (97 ≤ n && n ≤ 122) || n == 45 || n == 46 || n == 95

/-- One byte in percent coding. -/
def percentByte (b : UInt8) : List Char :=
  let n := b.toNat
  if isPlainByte n then [Char.ofNat n]
  else ['%', (hexDigit (n / 16)).toUpper, (hexDigit (n % 16)).toUpper]

def percentEncode (s : String) : List Char := s.toUTF8.toList.flatMap percentByte

/-- The bytes that a text in percent coding stands for; a percent sign without two digits stands
for itself. -/
def percentBytes : List Char → List UInt8
  | [] => []
  | '%' :: a :: b :: rest =>
    match Decimal.digitValue? a, Decimal.digitValue? b with
    | some h, some l => UInt8.ofNat (16 * h + l) :: percentBytes rest
    | _, _ => 37 :: percentBytes (a :: b :: rest)
  | c :: s => (String.singleton c).toUTF8.toList ++ percentBytes s

/-- The text behind percent coding, if the bytes are one. -/
def percentDecode? (s : List Char) : Option String :=
  String.fromUTF8? ⟨(percentBytes s).toArray⟩

end VersionedSite.Text
