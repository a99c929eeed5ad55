/-
**Secrets.**

A project's secret signs its requests. It is written into documents as it is, since the order has
to carry it to where messages are signed, but wherever it is shown to people it is masked.

* `Secret.display`: the mask;
* `Secret.read?`, `Secret.write`: the secret in documents.
-/

import Paydesk.Json.Basic

namespace Paydesk

/-- A text that is not shown. -/
structure Secret where
  reveal : String
  deriving DecidableEq

namespace Secret

/-- What is shown of any secret. -/
def display (_secret : Secret) : String := "****"

/-- The secret of a document. -/
def read? (json : Json) : Option Secret := json.text?.map Secret.mk

/-- The document of a secret. -/
def write (secret : Secret) : Json := .text secret.reveal

end Secret

end Paydesk
