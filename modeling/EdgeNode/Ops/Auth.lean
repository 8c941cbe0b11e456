import EdgeNode.Lib.Keyed
import EdgeNode.Ops.Clock

/-!
# Operator tokens and the administrator's passphrase

A token is issued under the generation in force and found again by the hash of its text. It stands
while it is not revoked, its generation is in force, and a trusted clock has not reached its end.
-/

namespace EdgeNode

/-- The password hashing of the node: which texts are hashes, and what a passphrase verifies
against. -/
structure PasswordHasher where
  isHash : String → Bool
  verifies : String → String → Bool

structure NewOperatorToken where
  name : String
  kind : TokenKind
  ceiling : Tier
  isSession : Bool
  expiresAt : Option ℤ
  deriving DecidableEq, Repr

structure IssuedToken where
  tokenId : String
  plaintext : String
  deriving DecidableEq, Repr

/-- Why a token is or is not accepted, with the trusted time it was held against. -/
inductive TokenVerdict where
  | gone
  | expired (tokenId : String) (now : ℤ)
  | accepted (actor : Actor) (now : Option ℤ)
  deriving DecidableEq, Repr

def TokenVerdict.actor : TokenVerdict → Option Actor
  | accepted actor _ => some actor
  | _ => none

def TokenKind.actorKind : TokenKind → ActorKind
  | human => .human
  | ai => .ai

def TokenRow.actor (row : TokenRow) (tokenId : String) : Actor :=
  ⟨tokenId, row.kind.actorKind, row.tierCeiling⟩

namespace Ops

variable {ρ α : Type}

def lastUsedUpdateIntervalMs : ℤ := 60000

def verifyPassphrase (hasher : PasswordHasher) (phc plaintext : String) : Bool :=
  hasher.isHash phc && hasher.verifies phc plaintext

def clockError : ClockTrustError → OpsError
  | .untrusted => .clockUntrusted
  | .ops e => e

def authGeneration : Tx (NodeDb ρ) OpsError ℤ :=
  Tx.query .sqlite fun db => db.auth.state.authGeneration

def loadPassphraseHash : Tx (NodeDb ρ) OpsError (Option String) :=
  Tx.query .sqlite fun db => db.auth.adminCredential.map AdminCredential.passphraseHash

def updateTokens (p : String → TokenRow → Bool) (f : TokenRow → TokenRow) (db : NodeDb ρ) :
    NodeDb ρ :=
  { db with auth := { db.auth with tokens := Keyed.updateWhere p f db.auth.tokens } }

variable (host : Host)

/-- Random text from the operating system, which may have none. -/
def randomText (head : String) : Tx (NodeDb ρ) OpsError String := do
  let draw ← Tx.draw
  Tx.query .random fun _ => head ++ host.uuid draw

/-! ## Issuing and revoking -/

/-- The insert is refused by the key, by the index on the hash and by the check on AI tokens. -/
def insertToken (tokenId tokenHash : String) (token : NewOperatorToken) (now generation : ℤ)
    (db : NodeDb ρ) : Except OpsError (Unit × NodeDb ρ) :=
  if tokenId ∈ db.auth.tokens then .error .sqlite
  else if db.auth.tokens.entries.any fun r => r.2.tokenHash == tokenHash then .error .sqlite
  else if h : token.kind = .ai → token.ceiling ≤ .routine then
    .ok ((), { db with auth := { db.auth with
      tokens := db.auth.tokens.insert tokenId
        { name := token.name, tokenHash := tokenHash, kind := token.kind,
          tierCeiling := token.ceiling, isSession := token.isSession, createdAt := now,
          expiresAt := token.expiresAt, authGeneration := generation, aiCeiling := h } } })
  else .error .sqlite

def jsonText : Option String → Json
  | some s => .str s
  | none => .null

def issueTokenAt (token : NewOperatorToken) (auditActor : String) (auditSource : Option String)
    (now : ℤ) : Tx (NodeDb ρ) OpsError IssuedToken := do
  let generation ← authGeneration
  let tokenId ← randomText host "tok_"
  let plaintext ← randomText host "iko_"
  Tx.stmt .sqlite (insertToken tokenId (host.sha256 plaintext) token now generation)
  recordEvent host (if token.isSession then "auth_session_issued" else "operator_token_issued") none
    (.object [("token_id", .str tokenId), ("name", .str token.name),
      ("source", jsonText auditSource), ("actor", .str auditActor)])
  pure ⟨tokenId, plaintext⟩

/-- The trusted time, as the functions below read it. -/
def trustedNow (clock : Clock) : Tx (Work ρ) OpsError ℤ :=
  (trustedNowAndAdvance clock).mapError clockError

/-- A token that expires is only issued against a trusted clock; `trust` says whether the caller
passes one. The time is the one the token was issued at, with whether it was trusted. -/
def issueTokenTimed (clock : Clock) (token : NewOperatorToken) (auditActor : String)
    (auditSource : Option String) (trust : Bool) : Tx (Work ρ) OpsError (Option ℤ × IssuedToken) :=
  if token.kind = .ai ∧ .routine < token.ceiling then
    Tx.fail (.validation "ai token tier ceiling cannot exceed routine")
  else if token.expiresAt.isSome then
    if trust then do
      let now ← trustedNow clock
      let issued ← onNode (issueTokenAt host token auditActor auditSource now)
      pure (some now, issued)
    else Tx.fail .clockUntrusted
  else do
    let draw ← Tx.draw
    let issued ← onNode (issueTokenAt host token auditActor auditSource (host.nowMs draw))
    pure (none, issued)

def issueToken (clock : Clock) (token : NewOperatorToken) (auditActor : String)
    (auditSource : Option String) (trust : Bool) : Tx (Work ρ) OpsError IssuedToken := do
  let issued ← issueTokenTimed host clock token auditActor auditSource trust
  pure issued.2

def issueSessionTokenTimed (clock : Clock) (name : String) (ceiling : Tier) (ttlMs : ℤ)
    (auditActor : String) (auditSource : Option String) :
    Tx (Work ρ) OpsError (ℤ × IssuedToken) := do
  if ttlMs ≤ 0 then Tx.fail (.validation "session TTL must be positive")
  else
    let now ← trustedNow clock
    match I64.checkedAdd now ttlMs with
    | none => Tx.fail (.validation "session expiry overflow")
    | some expiresAt =>
      let issued ← onNode (issueTokenAt host ⟨name, .human, ceiling, true, some expiresAt⟩
        auditActor auditSource now)
      pure (now, issued)

def issueSessionToken (clock : Clock) (name : String) (ceiling : Tier) (ttlMs : ℤ)
    (auditActor : String) (auditSource : Option String) : Tx (Work ρ) OpsError IssuedToken := do
  let issued ← issueSessionTokenTimed host clock name ceiling ttlMs auditActor auditSource
  pure issued.2

def revokeToken (tokenId auditActor : String) : Tx (NodeDb ρ) OpsError Unit := do
  let draw ← Tx.draw
  let changed ← Tx.stmt .sqlite fun db =>
    .ok (Keyed.countWhere (fun k _ => k == tokenId) db.auth.tokens,
      updateTokens (fun k _ => k == tokenId)
        (fun row => { row with revokedAt := some (host.nowMs draw) }) db)
  if changed = 0 then Tx.fail .notFound
  else
    recordEvent host "operator_token_revoked" none
      (.object [("token_id", .str tokenId), ("actor", .str auditActor)])

/-! ## Authentication -/

def tokenByHash (db : NodeDb ρ) (tokenHash : String) : Option (String × TokenRow) :=
  (db.auth.tokens.entries.find? fun r => r.2.tokenHash == tokenHash).map fun r => (r.1, r.2)

/-- The use of a token is written down at most once a minute. -/
def noteUse (tokenId : String) (row : TokenRow) (observedNow : ℤ) : Tx (NodeDb ρ) OpsError Unit :=
  if row.lastUsedAt.all fun last =>
      lastUsedUpdateIntervalMs < I64.saturatingSub observedNow last then
    Tx.exec .sqlite (updateTokens (fun k _ => k == tokenId)
      fun row => { row with lastUsedAt := some observedNow })
  else pure ()

def judgeToken (clock : Clock) (plaintext : String) : Tx (Work ρ) OpsError TokenVerdict := do
  match ← onNode (Tx.query .sqlite fun db => tokenByHash db (host.sha256 plaintext)) with
  | none => pure .gone
  | some (tokenId, row) =>
    if row.revokedAt.isSome then pure .gone
    else
      let generation ← onNode authGeneration
      if row.authGeneration ≠ generation then pure .gone
      else
        match row.expiresAt with
        | some expires =>
          let now ← trustedNow clock
          if expires ≤ now then pure (.expired tokenId now)
          else
            onNode (noteUse tokenId row now)
            pure (.accepted (row.actor tokenId) (some now))
        | none =>
          let draw ← Tx.draw
          onNode (noteUse tokenId row (clock.wallTimeMs draw))
          pure (.accepted (row.actor tokenId) none)

def authenticate (clock : Clock) (plaintext : String) : Tx (Work ρ) OpsError (Option Actor) := do
  let verdict ← judgeToken host clock plaintext
  pure verdict.actor

/-- The authentication layer of the API: a transaction of its own, which is kept unless there was an
error. -/
def authLayer (clock : Clock) (plaintext : String) : Tx (Work ρ) OpsError (Option Actor) :=
  Tx.transaction .sqlite Work.undo do
    let actor ← authenticate host clock plaintext
    pure (.commit, actor)

/-- A new hash, a new generation, and no token of the old one left. -/
def resetBody (phc auditActor : String) : Tx (NodeDb ρ) OpsError (Tx.Ending × Unit) := do
  let draw ← Tx.draw
  let now := host.nowMs draw
  Tx.exec .sqlite fun db => { db with auth := { db.auth with
    adminCredential := some
      ⟨phc, db.auth.adminCredential.elim now AdminCredential.setAt, now⟩ } }
  Tx.exec .sqlite <| setAuthState fun s => { s with
    authGeneration := s.authGeneration + 1
    deviceCredentialGeneration := s.deviceCredentialGeneration + 1
    recoveryRequired := false
    ownershipEverEstablished := true }
  Tx.exec .sqlite <| updateTokens (fun _ row => row.revokedAt.isNone)
    fun row => { row with revokedAt := some now }
  recordEvent host "admin_passphrase_reset" none (.object [("actor", .str auditActor)])
  pure (.commit, ())

def resetPassphraseWithHash (hasher : PasswordHasher) (phc auditActor : String) :
    Tx (NodeDb ρ) OpsError Unit :=
  if !hasher.isHash phc then Tx.fail .credentialHash
  else Tx.transaction .sqlite (fun before _ => before) (resetBody host phc auditActor)

end Ops

end EdgeNode
