import Failover.Text.Quoted

/-!
# Credentials

What an endpoint is reached with.  The key is secret: it is only shown masked,
which keeps its first eight and last four characters when it is long enough and
plain ASCII, and nothing of it otherwise.

## Main definitions

* `Credentials` — the credential fields.
* `masked` — a key with its middle, or all of it, hidden.
* `Credentials.text` — credentials as diagnostic output.
-/

namespace Failover

/-- What an endpoint is reached with; each part may be missing. -/
structure Credentials where
  /-- The secret key. -/
  apiKey : Option String := none
  /-- The address of the service. -/
  apiBase : Option String := none
  /-- The address of a proxy. -/
  proxy : Option String := none
  /-- How the caller proves who it is. -/
  authMethod : Option String := none
  /-- How the connection is made. -/
  connectMode : Option String := none
  deriving DecidableEq

/-- Whether a text is plain ASCII. -/
def isPlain (text : String) : Bool := text.toList.all fun c => c.toNat < 0x80

/-- Some stars. -/
def stars (n : Nat) : String := String.ofList (List.replicate n '*')

/-- A key fit to be shown.  A short key, or one beyond ASCII, becomes stars, at
most twelve; another one keeps its ends around at most eight stars.  Lengths are
in bytes. -/
def masked (key : String) : String :=
  let size := key.utf8ByteSize
  if size ≤ 12 ∨ isPlain key = false then stars (min size 12)
  else
    let cs := key.toList
    String.ofList (cs.take 8) ++ stars (min (size - 12) 8) ++ "..." ++
      String.ofList (cs.drop (size - 4))

namespace Credentials

/-- The key fit to be shown. -/
def maskedKey (c : Credentials) : Option String := c.apiKey.map masked

/-- Credentials as diagnostic output. -/
def text (c : Credentials) : String :=
  "Credentials \x7b api_key: " ++ Text.quotedOption c.maskedKey ++
    ", api_base: " ++ Text.quotedOption c.apiBase ++
    ", proxy: " ++ Text.quotedOption c.proxy ++
    ", auth_method: " ++ Text.quotedOption c.authMethod ++
    ", connect_mode: " ++ Text.quotedOption c.connectMode ++ " \x7d"

end Credentials

end Failover
