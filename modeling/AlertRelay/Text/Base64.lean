import AlertRelay.Text.Utf8

/-!
# Base64

## Main definitions

* `base64`: octets as letters, digits, `+` and `/`, filled up with `=`.
-/

namespace AlertRelay.Text

/-- The characters for the values 0 to 63. -/
def base64Char (n : Nat) : Char :=
  Char.ofNat <|
    if n < 26 then 'A'.toNat + n
    else if n < 52 then 'a'.toNat + (n - 26)
    else if n < 62 then '0'.toNat + (n - 52)
    else if n = 62 then '+'.toNat
    else '/'.toNat

/-- Three octets become four characters; what is missing at the end is filled up. -/
def base64 : Octets → List Char
  | a :: b :: c :: rest =>
    let n := (a.toNat * 256 + b.toNat) * 256 + c.toNat
    base64Char (n / 262144) :: base64Char (n / 4096 % 64) :: base64Char (n / 64 % 64) ::
      base64Char (n % 64) :: base64 rest
  | [a, b] =>
    let n := (a.toNat * 256 + b.toNat) * 4
    [base64Char (n / 4096), base64Char (n / 64 % 64), base64Char (n % 64), '=']
  | [a] =>
    let n := a.toNat * 16
    [base64Char (n / 64), base64Char (n % 64), '=', '=']
  | [] => []

end AlertRelay.Text
