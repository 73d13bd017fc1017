import WorkloadAuth.Chain.Certificate
import WorkloadAuth.Pem

/-!
# Trust stores

Certificates that a client trusts besides the usual ones are given as text. This text is read more
strictly than that of certificates which a workload presents, and each of them has to be of use as
the end of a chain, whatever it has of extensions that are not understood.

* `TrustStore.certificates?`: the octets of the certificates in a text.
* `TrustStore.isUsable`: whether some texts can be used.
-/

namespace WorkloadAuth.Http.TrustStore

open Chain

/-- The labels of blocks whose contents are read. Others are passed over unread. -/
def knownLabels : List String :=
  ["CERTIFICATE", "PUBLIC KEY", "PRIVATE KEY", "RSA PRIVATE KEY", "EC PRIVATE KEY", "X509 CRL",
    "CERTIFICATE REQUEST", "ECHCONFIG"]

/-- The characters that may stand between the dashes at the end of a line and behind them. -/
def isFiller (c : Char) : Bool := c = ' ' || c = '\n' || c = '\x0d'

/-- The label in the first line of a block, which ends in five dashes. -/
def label? (line : List Char) : Option String :=
  let rest := (line.drop Pem.opening.length).reverse
  let isTail (c : Char) : Bool := c = '-' || isFiller c
  if (rest.takeWhile isTail).count '-' = 5 then
    let trailing := ((rest.takeWhile isTail).reverse.dropWhile isFiller).length
    some (String.ofList (rest.reverse.take (rest.length - trailing)))
  else none

/-- The bits of a value below sixty-four, the highest first. -/
def sixBits (v : Nat) : List Bool := [5, 4, 3, 2, 1, 0].map v.testBit

/-- As many octets of some bits, each of them of eight bits. -/
def octetsOfBits : Nat → List Bool → List UInt8
  | 0, _ => []
  | n + 1, bits =>
    UInt8.ofNat ((bits.take 8).foldl (fun v b => v * 2 + b.toNat) 0) ::
      octetsOfBits n (bits.drop 8)

/-- The octets of base64 text. Blanks are passed over, and the padding may be missing. -/
def base64? (cs : List Char) : Option (List UInt8) :=
  let cs := cs.filter fun c => c ≠ ' ' && !(0x09 ≤ c.toNat && c.toNat ≤ 0x0d)
  let digits := (cs.reverse.dropWhile (· == '=')).reverse
  let padding := cs.length - digits.length
  let missing := (4 - digits.length % 4) % 4
  if missing ≠ 3 ∧ (padding = 0 ∨ padding = missing) then
    (digits.mapM Text.Base64.value?).map fun values =>
      octetsOfBits (values.length * 6 / 8) (values.flatMap sixBits)
  else none

/-- The certificates of some lines. Inside of a block, its label is known. -/
def scan : Option String → List Char → List (List Char) → Option (List (List UInt8))
  | none, _, [] => some []
  | some _, _, [] => none
  | block, body, line :: rest =>
    if Pem.opening.isPrefixOf line then
      match label? line with
      | some label => scan (some label) body rest
      | none => none
    else
      match block with
      | none => scan none body rest
      | some label =>
        if (Pem.closing ++ label.toList ++ Pem.dashes).isPrefixOf line then
          if knownLabels.contains label then
            match base64? body with
            | none => none
            | some octets =>
              (scan none [] rest).map fun more =>
                if label = "CERTIFICATE" then octets :: more else more
          else scan none [] rest
        else scan (some label) (body ++ line) rest

/-- The octets of the certificates in a text. -/
def certificates? (text : String) : Option (List (List UInt8)) :=
  scan none [] (text.toList.splitOnP fun c => c = '\n' || c = '\x0d')

/-- Whether all certificates of a text can end a chain. -/
def isUsableText (text : String) : Bool :=
  match certificates? text with
  | none => false
  | some certificates => certificates.all fun der => (Anchor.ofDer .passedOver der).isOk

/-- Whether some texts can be used. -/
def isUsable (texts : List String) : Bool := texts.all isUsableText

end WorkloadAuth.Http.TrustStore
