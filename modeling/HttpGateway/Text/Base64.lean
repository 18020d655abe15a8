import HttpGateway.Text.Utf8

namespace HttpGateway.Text

def base64Char (n : Nat) : Char :=
  if n < 26 then Char.ofNat (65 + n)
  else if n < 52 then Char.ofNat (71 + n)
  else if n < 62 then Char.ofNat (n - 4)
  else if n = 62 then '+'
  else '/'

def base64 : List UInt8 → List Char
  | a :: b :: c :: bs =>
    let n := 65536 * a.toNat + 256 * b.toNat + c.toNat
    [n / 262144, n / 4096 % 64, n / 64 % 64, n % 64].map base64Char ++ base64 bs
  | [a, b] =>
    let n := 1024 * a.toNat + 4 * b.toNat
    [n / 4096, n / 64 % 64, n % 64].map base64Char ++ ['=']
  | [a] => [a.toNat / 4, a.toNat % 4 * 16].map base64Char ++ ['=', '=']
  | [] => []

end HttpGateway.Text
