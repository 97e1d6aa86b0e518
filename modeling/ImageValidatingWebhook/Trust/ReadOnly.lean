import ImageValidatingWebhook.Trust.Token
import ImageValidatingWebhook.Trust.Metadata

/-!
# ImageValidatingWebhook.Trust.ReadOnly — building a notary client (`NewReadOnly`)

`NewReadOnly` leaves the pass phrases its retriever reads as Go's nil map, so:

* `passRetriever_nil`: that retriever never returns a pass phrase.
-/

namespace ImageValidatingWebhook.Trust

def defaultNotaryServer : String := "https://notary.docker.io"

/-- `auth.RegistryTransport`, by the token it adds to each request. -/
structure RegistryTransport where
  token : Option Token
deriving DecidableEq, Repr

/-- The `notaryRepo` `NewReadOnly` starts from: the image's, at `notaryURL` or the default. -/
def NotaryClient.atNotaryURL (c : NotaryClient) (notaryURL : String) : NotaryClient :=
  { c with notaryServerURL := if notaryURL = "" then defaultNotaryServer else notaryURL }

/-- `NewReadOnly(image, notaryURL, path)` after the requests `sent`, with
`client.NewFileCachedRepository` as `newFileCachedRepository`. -/
def newReadOnly (c : NotaryClient)
    (newFileCachedRepository : String → String → String → RegistryTransport →
      Except GoError Repository)
    (notaryURL path : String) (sent : List Request) : Except GoError NotaryRepo × List Request :=
  let n := c.atNotaryURL notaryURL
  match n.getToken ⟨none, sent⟩ with
  | (.error err, s) => (.error err, s.sent)
  | (.ok token, s) =>
    match newFileCachedRepository path n.imageNameWithHost n.notaryServerURL ⟨token⟩ with
    | .error err => (.error err, s.sent)
    | .ok repo => (.ok ⟨n.notaryServerURL, repo⟩, s.sent)

/-! ## The pass retriever -/

/-- `TrustPass.AddKeyPass`; on Go's nil map (`none`) the assignment panics (`.error`). -/
def addKeyPass : Option (GoMap String String) → String → String →
    Except String (Option (GoMap String String))
  | none, _, _ => .error "assignment to entry in nil map"
  | some p, key, val => .ok (some (p.set key val))

/-- The closure `n.passRetriever()` returns, with `utils.RandomString(10)` as `randomString`. -/
def passRetriever (passPhrase : Option (GoMap String String)) (randomString id : String)
    (createNew : Bool) (attempts : Int) :
    Except String ((String × Bool × Option GoError) × Option (GoMap String String)) := do
  let passPhrase ← if createNew then addKeyPass passPhrase id randomString else pure passPhrase
  match passPhrase.bind (·.get? id) with
  | none => pure (("", decide (attempts > 1), some ⟨"no pass phrase is found"⟩), passPhrase)
  | some phrase => pure ((phrase, decide (attempts > 1), none), passPhrase)

/-- On the nil map `NewReadOnly` leaves, the pass retriever never returns a pass phrase. -/
theorem passRetriever_nil (randomString id : String) (createNew : Bool) (attempts : Int) :
    passRetriever none randomString id createNew attempts =
      if createNew then .error "assignment to entry in nil map"
      else .ok (("", decide (attempts > 1), some ⟨"no pass phrase is found"⟩), none) := by
  cases createNew <;> rfl

/-- With a map, a pass phrase the retriever creates is the one a later call returns. -/
theorem passRetriever_create (p : GoMap String String) (randomString id : String)
    (attempts attempts' : Int) (randomString' : String) :
    passRetriever (some p) randomString id true attempts =
        .ok ((randomString, decide (attempts > 1), none), some (p.set id randomString)) ∧
      passRetriever (some (p.set id randomString)) randomString' id false attempts' =
        .ok ((randomString, decide (attempts' > 1), none), some (p.set id randomString)) := by
  simp [passRetriever, addKeyPass, bind, Except.bind, pure, Except.pure]

end ImageValidatingWebhook.Trust
