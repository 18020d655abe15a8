import HttpGateway.Coding.Inflate
import HttpGateway.Text.CaseMap
import HttpGateway.Text.Pieces

namespace HttpGateway

open HttpGateway.Text

inductive Coding where
  | gzip
  | deflate
deriving DecidableEq

namespace Coding

inductive Fault where
  | header
  | data (cause : Inflate.Fault)
deriving DecidableEq

def Fault.message : Fault → String
  | header => "Error -3 while decompressing data: incorrect header check"
  | data cause => "Error -3 while decompressing data: " ++ cause.message

def checksum (bytes : List UInt8) : Nat :=
  let (a, b) := bytes.foldl (fun (a, b) x =>
    let a := (a + x.toNat) % 65521
    (a, (a + b) % 65521)) (1, 0)
  65536 * b + a

def isHead (a b : Nat) : Bool := (256 * a + b) % 31 == 0 && a % 16 == 8 && a / 16 ≤ 7

def inflateChecked? (data : List UInt8) : Option (List UInt8) :=
  match data with
  | a :: b :: data =>
    if !isHead a.toNat b.toNat then none
    else if b.toNat / 32 % 2 = 1 then if data.length < 4 then some [] else none
    else
      match Inflate.read data with
      | .error _ => none
      | .ok p =>
        let check := fun bits : Inflate.Bits =>
          (bits.drop (bits.length % 8)).take 32 ==
            (List.range 4).reverse.flatMap fun i =>
              Inflate.bitsOfByte (UInt8.ofNat (checksum p.out.toList / Nat.pow 256 i))
        if p.rest.all fun bits => bits.length < 32 || check bits then some p.out.toList else none
  | _ => some []

/-- The bytes without the coding. Deflated data may come with or without a head; the mark of a gzip
file begins no text. -/
def decode (data : List UInt8) : Coding → Except Fault (List UInt8)
  | gzip => if data.length < 2 then .ok [] else .error .header
  | deflate =>
    match inflateChecked? data with
    | some bytes => .ok bytes
    | none => ((Inflate.read data).mapError Fault.data).map fun p => p.out.toList

def ofName? (name : String) : Option Coding :=
  match lower (strip name) with
  | "gzip" => some gzip
  | "deflate" => some deflate
  | _ => none

def ofValues (values : List String) : List Coding :=
  ((values.flatMap (pieces ',')).filterMap ofName?).reverse

def decodeAll (data : List UInt8) (codings : List Coding) : Except Fault (List UInt8) :=
  codings.foldlM (fun data c => c.decode data) data

end Coding

end HttpGateway
