/-
**Signed requests.**

A merchant signs a request by listing every parameter except the signature itself in key order as
`key=value`, joining them with bars, adding a bar and the project's secret, and taking the SHA-256
digest of the whole. The signature travels in hexadecimal.

* `signedText`: the text that is digested;
* `sign`: the signature in small letters;
* `isSignedBy`: whether a text is the signature, in either letter case.
-/

import Paydesk.Dict
import Paydesk.Digest.Sha256
import Paydesk.Text.Blank
import Paydesk.Text.Hex

namespace Paydesk

/-- The parameter that carries the signature. -/
def signatureField : String := "PP_SIGNATURE"

/-- The text that is digested for parameters and a secret. -/
def signedText (params : Dict String String) (secret : String) : String :=
  let signed := params.filter fun key _ => key != signatureField
  "|".intercalate (signed.entries.map fun (key, value) => key ++ "=" ++ value) ++ "|" ++ secret

/-- The digest that the signature stands for. -/
def signatureDigest (params : Dict String String) (secret : String) : List UInt8 :=
  Sha256.digest (signedText params secret).toUTF8.toList

/-- The signature of parameters. -/
def sign (params : Dict String String) (secret : String) : String :=
  Text.hexOfBytes (signatureDigest params secret)

/-- Whether a text is the signature of parameters; white space around it does not count. -/
def isSignedBy (params : Dict String String) (secret supplied : String) : Bool :=
  Text.bytesOfHex? (Text.trimBlank supplied) == some (signatureDigest params secret)

end Paydesk
