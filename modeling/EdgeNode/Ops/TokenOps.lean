import EdgeNode.Ops.Catalog

/-!
# The operations on operator tokens

Two operations of the catalogue: issuing a token, of the construction tier, and revoking tokens, of
the daily tier and one step up for more than one. Above them stand the readers of parameters that
all operations share.
-/

namespace EdgeNode

namespace Tier

def parse (value : String) : Except OpsError Tier :=
  match value with
  | "read_only" => .ok readOnly
  | "routine" => .ok routine
  | "daily" => .ok daily
  | "construction" => .ok construction
  | other => .error (.validation ("unknown tier: " ++ other))

end Tier

namespace TokenKind

def asStr : TokenKind → String
  | human => "human"
  | ai => "ai"

def parse (value : String) : Except OpsError TokenKind :=
  match value with
  | "human" => .ok human
  | "ai" => .ok ai
  | other => .error (.validation ("unknown token kind: " ++ other))

end TokenKind

namespace Ops

variable {ρ : Type}

/-! ## Parameters -/

def requiredStr (params : Json) (key : String) : Except OpError String :=
  match (params.get? key).bind Json.asStr? with
  | some text => .ok text
  | none => .error (.validation (key ++ " must be a string"))

def requiredStringArray (params : Json) (key : String) : Except OpError (List String) :=
  match (params.get? key).bind Json.asArray? with
  | none => .error (.validation (key ++ " must be an array"))
  | some values =>
    match values.mapM Json.asStr? with
    | none => .error (.validation (key ++ " entries must be strings"))
    | some texts => .ok texts

def targetStringArray (params : Json) (key : String) : List String :=
  (((params.get? key).bind Json.asArray?).getD []).filterMap Json.asStr?

/-- The whole numbers of 64 bits. -/
def asI64? : Json → Option ℤ
  | .int i => I64.checked i
  | _ => none

def ofOpsResult {α : Type} (r : Except OpsError α) : Except OpError α := r.mapError .ofOps

def schemaOf (required optional : List String) : Json :=
  .object [("required", .arr (required.map .str)), ("optional", .arr (optional.map .str))]

/-! ## Issuing -/

def expiresAtParam (params : Json) : Except OpError (Option ℤ) :=
  match params.get? "expires_at" with
  | some .null | none => .ok none
  | some value =>
    match asI64? value with
    | some i => .ok (some i)
    | none => .error (.validation "expires_at must be an integer")

def parseNewToken (params : Json) : Except OpError NewOperatorToken := do
  let kind ← ofOpsResult (TokenKind.parse (← requiredStr params "kind"))
  let ceiling ← ofOpsResult (Tier.parse (← requiredStr params "tier_ceiling"))
  let expiresAt ← expiresAtParam params
  let name ← requiredStr params "name"
  .ok ⟨name, kind, ceiling, false, expiresAt⟩

def issuePreconditions (context : OpContext) : Except OpError Unit := do
  let token ← parseNewToken context.params
  if token.kind = .ai ∧ .routine < token.ceiling then
    .error (.validation "ai token tier ceiling cannot exceed routine")
  else .ok ()

def issueDryRun (context : OpContext) : Except OpError Json := do
  let token ← parseNewToken context.params
  .ok (.object [("would", .str "issue_token"), ("name", .str token.name),
    ("kind", .str token.kind.asStr), ("tier_ceiling", .str token.ceiling.asStr),
    ("expires_at", token.expiresAt.elim .null .int)])

def issueExecute (host : Host) (clock : Clock) (context : OpContext) :
    Tx (Work ρ) OpError Json := do
  let token ← Tx.ofExcept (parseNewToken context.params)
  let issued ← (issueToken host clock token context.actorId context.source
    context.clockTrust).mapError .ofOps
  pure (.object [("token_id", .str issued.tokenId), ("plaintext", .str issued.plaintext)])

def issueDescriptor (host : Host) (clock : Clock) : OpDescriptor ρ where
  name := "operator_token.issue"
  tier := .construction
  bulkEscalates := false
  changesState := true
  paramsSchema := schemaOf ["name", "kind", "tier_ceiling"] ["expires_at"]
  targets params := ((params.get? "name").bind Json.asStr?).toList
  preconditions context := Tx.ofExcept (issuePreconditions context)
  dryRun context := Tx.ofExcept (issueDryRun context)
  execute := issueExecute host clock
  secretExecute := none
  preconditions_read _ _ _ := Tx.wp_ofExcept (fun _ _ => rfl) fun _ _ => rfl

/-! ## Revoking -/

def requireUnrevoked (tokenId : String) : Tx (Work ρ) OpError Unit := do
  let alive ← onNode (Tx.query .storage fun db =>
    (db.auth.tokens.lookup tokenId).any fun row => row.revokedAt.isNone)
  if alive then pure () else Tx.fail .notFound

def revokePreconditions (context : OpContext) : Tx (Work ρ) OpError Unit := do
  let tokenIds ← Tx.ofExcept (requiredStringArray context.params "token_ids")
  if tokenIds.isEmpty then Tx.fail (.validation "empty targets")
  else Tx.forEach requireUnrevoked tokenIds

theorem revokePreconditions_read (context : OpContext) (w : Work ρ) (n : ℕ) :
    Tx.wp (revokePreconditions context) (fun _ w' _ => w' = w) (fun _ w' _ => w' = w) w n := by
  refine Tx.wp_bind (Tx.wp_ofExcept (fun tokenIds _ => ?_) fun _ _ => rfl)
  split_ifs
  · exact Tx.wp_fail rfl
  · refine Tx.wp_forEach (I := fun _ w' _ => w' = w) (fun tokenId _ w' n' hw => ?_) rfl
    refine Tx.wp_bind (Tx.wp_on (Tx.wp_query hw ?_))
    split_ifs
    · exact Tx.wp_pure hw
    · exact Tx.wp_fail hw

def revokeDryRun (context : OpContext) : Except OpError Json := do
  let tokenIds ← requiredStringArray context.params "token_ids"
  .ok (.object [("would", .str "revoke_token"), ("count", .int tokenIds.length),
    ("token_ids", .arr (tokenIds.map .str))])

def revokeExecute (host : Host) (context : OpContext) : Tx (Work ρ) OpError Json := do
  let tokenIds ← Tx.ofExcept (requiredStringArray context.params "token_ids")
  Tx.forEach (fun tokenId => onNode ((revokeToken host tokenId context.actorId).mapError .ofOps))
    tokenIds
  pure (.object [("revoked", .arr (tokenIds.map .str))])

def revokeDescriptor (host : Host) : OpDescriptor ρ where
  name := "operator_token.revoke"
  tier := .daily
  bulkEscalates := true
  changesState := true
  paramsSchema := .object [("required", .arr [.str "token_ids"])]
  targets params := targetStringArray params "token_ids"
  preconditions := revokePreconditions
  dryRun context := Tx.ofExcept (revokeDryRun context)
  execute := revokeExecute host
  secretExecute := none
  preconditions_read := revokePreconditions_read

end Ops

end EdgeNode
