import EdgeNode.Proofs.Confirmation

/-!
# What the token functions leave

A token keeps its kind, its ceiling, its generation and its expiry for as long as it is there, and it
is never deleted. A new one is of the generation in force. Only a reset of the passphrase changes the
hash and the generation.
-/

namespace EdgeNode

open Tx

namespace Ops

variable {ρ : Type} {host : Host} {clock : Clock} {db db' db'' : NodeDb ρ} {w : Work ρ} {n : ℕ}
  {tokenId : String}

structure SameTerms (row row' : TokenRow) : Prop where
  kind : row'.kind = row.kind
  ceiling : row'.tierCeiling = row.tierCeiling
  generation : row'.authGeneration = row.authGeneration
  expiry : row'.expiresAt = row.expiresAt

theorem SameTerms.refl (row : TokenRow) : SameTerms row row := ⟨rfl, rfl, rfl, rfl⟩

theorem SameTerms.trans {row row' row'' : TokenRow} (h : SameTerms row row')
    (h' : SameTerms row' row'') : SameTerms row row'' :=
  ⟨h'.kind.trans h.kind, h'.ceiling.trans h.ceiling, h'.generation.trans h.generation,
    h'.expiry.trans h.expiry⟩

theorem SameTerms.actor {row row' : TokenRow} (h : SameTerms row row') :
    row'.actor tokenId = row.actor tokenId := by
  simp [TokenRow.actor, h.kind, h.ceiling]

structure TermsKept (db db' : NodeDb ρ) : Prop where
  floor : db.auth.state.clockFloorMs ≤ db'.auth.state.clockFloorMs
  tokens : ∀ tokenId row, db.auth.tokens.lookup tokenId = some row →
    ∃ row', db'.auth.tokens.lookup tokenId = some row' ∧ SameTerms row row'

theorem TermsKept.refl (db : NodeDb ρ) : TermsKept db db :=
  ⟨le_rfl, fun _ row h => ⟨row, h, .refl row⟩⟩

theorem TermsKept.trans (h : TermsKept db db') (h' : TermsKept db' db'') : TermsKept db db'' where
  floor := h.floor.trans h'.floor
  tokens tokenId row hrow := by
    obtain ⟨row', hrow', hsame⟩ := h.tokens tokenId row hrow
    obtain ⟨row'', hrow'', hsame'⟩ := h'.tokens tokenId row' hrow'
    exact ⟨row'', hrow'', hsame.trans hsame'⟩

theorem TermsKept.of_tokens (hfloor : db.auth.state.clockFloorMs ≤ db'.auth.state.clockFloorMs)
    (htokens : db'.auth.tokens = db.auth.tokens) : TermsKept db db' :=
  ⟨hfloor, fun _ row hrow => ⟨row, by rwa [htokens], .refl row⟩⟩

theorem TermsKept.of_auth (h : db'.auth = db.auth) : TermsKept db db' :=
  .of_tokens (by rw [h]) (by rw [h])

theorem TermsKept.of_state {f : AuthState → AuthState}
    (h : db.auth.state.clockFloorMs ≤ (f db.auth.state).clockFloorMs) :
    TermsKept db (setAuthState f db) :=
  .of_tokens h rfl

theorem TermsKept.of_update {p : String → TokenRow → Bool} {f : TokenRow → TokenRow}
    (hf : ∀ row, SameTerms row (f row)) : TermsKept db (updateTokens p f db) := by
  refine ⟨le_rfl, fun tokenId row hrow => ?_⟩
  refine ⟨if p tokenId row then f row else row, ?_, ?_⟩
  · exact Keyed.lookup_updateWhere.trans (by rw [hrow]; rfl)
  · split_ifs
    · exact hf row
    · exact .refl row

theorem TermsKept.withEvents (h : TermsKept db db') {events : AutoTable EventRow} :
    TermsKept db (withEvents db' events) :=
  h.trans (.of_auth rfl)

/-- Moreover the passphrase and the generation are as before, and every new token is of that
generation. -/
structure AuthorityKept (db db' : NodeDb ρ) : Prop extends TermsKept db db' where
  credential : db'.auth.adminCredential = db.auth.adminCredential
  generation : db'.auth.state.authGeneration = db.auth.state.authGeneration
  issued : ∀ tokenId row', db'.auth.tokens.lookup tokenId = some row' →
    db.auth.tokens.lookup tokenId = none → row'.authGeneration = db.auth.state.authGeneration

theorem AuthorityKept.of_tokens
    (hfloor : db.auth.state.clockFloorMs ≤ db'.auth.state.clockFloorMs)
    (hcredential : db'.auth.adminCredential = db.auth.adminCredential)
    (hgeneration : db'.auth.state.authGeneration = db.auth.state.authGeneration)
    (htokens : db'.auth.tokens = db.auth.tokens) : AuthorityKept db db' where
  toTermsKept := .of_tokens hfloor htokens
  credential := hcredential
  generation := hgeneration
  issued tokenId row' hrow' hnone := by
    rw [htokens, hnone] at hrow'
    cases hrow'

theorem AuthorityKept.of_auth (h : db'.auth = db.auth) : AuthorityKept db db' :=
  .of_tokens (by rw [h]) (by rw [h]) (by rw [h]) (by rw [h])

theorem AuthorityKept.refl (db : NodeDb ρ) : AuthorityKept db db := .of_auth rfl

theorem AuthorityKept.trans (h : AuthorityKept db db') (h' : AuthorityKept db' db'') :
    AuthorityKept db db'' where
  toTermsKept := h.toTermsKept.trans h'.toTermsKept
  credential := h'.credential.trans h.credential
  generation := h'.generation.trans h.generation
  issued tokenId row'' hrow'' hnone := by
    cases hrow' : db'.auth.tokens.lookup tokenId with
    | none => rw [h'.issued tokenId row'' hrow'' hrow', h.generation]
    | some row' =>
      obtain ⟨row₁, hrow₁, hsame⟩ := h'.tokens tokenId row' hrow'
      obtain rfl : row₁ = row'' := Option.some.inj (hrow₁.symm.trans hrow'')
      rw [hsame.generation, h.issued tokenId row' hrow' hnone]

theorem AuthorityKept.of_update {p : String → TokenRow → Bool} {f : TokenRow → TokenRow}
    (hf : ∀ row, SameTerms row (f row)) : AuthorityKept db (updateTokens p f db) where
  toTermsKept := .of_update hf
  credential := rfl
  generation := rfl
  issued tokenId row' hrow' hnone := by
    rw [show (updateTokens p f db).auth.tokens.lookup tokenId = _ from Keyed.lookup_updateWhere,
      hnone] at hrow'
    cases hrow'

/-! ## The functions -/

theorem recordEvent_kept (kind : String) (systemId : Option SystemId) (detail : Json) :
    wp (recordEvent host kind systemId detail) (fun _ db' _ => AuthorityKept db db')
      (fun _ db' _ => AuthorityKept db db') db n := by
  refine wp_mono (recordEvent_wp _ _ _) ?_ ?_
  · rintro _ _ _ ⟨-, events, -, rfl⟩
    exact .of_auth rfl
  · rintro _ _ _ ⟨-, rfl⟩
    exact .refl _

theorem trustedNow_kept :
    wp (trustedNow clock)
      (fun now w' _ => AuthorityKept w.db w'.db ∧ w.db.auth.state.clockFloorMs ≤ now
        ∧ now ≤ w'.db.auth.state.clockFloorMs ∧ w'.db.auth.tokens = w.db.auth.tokens)
      (fun _ w' _ => AuthorityKept w.db w'.db) w n := by
  refine wp_mono trustedNow_wp ?_ ?_
  · rintro now w' n' ⟨-, hfloor, source, -, hdb⟩
    rw [hdb]
    exact ⟨.of_tokens (le_max_left _ _) rfl rfl rfl, hfloor, le_max_right _ _, rfl⟩
  · rintro e w' n' ⟨hdb, -⟩
    exact .of_auth (by rw [hdb])

theorem insertToken_kept {tokenHash : String} {token : NewOperatorToken} {now : ℤ}
    (h : insertToken tokenId tokenHash token now db.auth.state.authGeneration db = .ok ((), db')) :
    AuthorityKept db db' := by
  unfold insertToken at h
  split_ifs at h with hkey hhash hai
  cases h
  refine ⟨⟨le_rfl, fun id row hrow => ⟨row, ?_, .refl row⟩⟩, rfl, rfl, fun id row' hrow' hnone => ?_⟩
  · have hne : id ≠ tokenId := by
      rintro rfl
      exact hkey (AList.lookup_isSome.1 (by simp [hrow]))
    exact (AList.lookup_insert_ne hne).trans hrow
  · by_cases hid : id = tokenId
    · subst hid
      rw [AList.lookup_insert] at hrow'
      cases hrow'
      rfl
    · rw [AList.lookup_insert_ne hid, hnone] at hrow'
      cases hrow'

theorem issueTokenAt_kept (token : NewOperatorToken) (auditActor : String)
    (auditSource : Option String) (now : ℤ) :
    wp (issueTokenAt host token auditActor auditSource now) (fun _ db' _ => AuthorityKept db db')
      (fun _ db' _ => AuthorityKept db db') db n := by
  have hrefl := AuthorityKept.refl db
  refine wp_bind (wp_query hrefl ?_)
  refine wp_bind (wp_bind (wp_draw (wp_query hrefl ?_)))
  refine wp_bind (wp_bind (wp_draw (wp_query hrefl ?_)))
  refine wp_bind (wp_stmt hrefl ?_ fun _ _ => hrefl)
  intro _ db₁ hinsert
  have hinserted := insertToken_kept hinsert
  refine wp_bind (wp_mono (recordEvent_kept _ _ _) ?_ ?_)
  · intro _ db₂ n₂ hevent
    exact wp_pure (hinserted.trans hevent)
  · intro _ db₂ n₂ hevent
    exact hinserted.trans hevent

theorem noteUse_kept (row : TokenRow) (now : ℤ) :
    wp (noteUse tokenId row now) (fun _ db' _ => AuthorityKept db db')
      (fun _ db' _ => AuthorityKept db db') db n := by
  unfold noteUse
  split_ifs
  · exact wp_exec (.refl db) (.of_update fun _ => ⟨rfl, rfl, rfl, rfl⟩)
  · exact wp_pure (.refl db)

theorem revokeToken_kept (tokenId auditActor : String) :
    wp (revokeToken host tokenId auditActor) (fun _ db' _ => AuthorityKept db db')
      (fun _ db' _ => AuthorityKept db db') db n := by
  refine wp_bind (wp_draw (wp_bind (wp_stmt (.refl _) ?_ ?_)))
  · rintro changed db₁ h
    obtain ⟨rfl, rfl⟩ : _ ∧ _ := by simpa using h
    have hupdate : AuthorityKept db (updateTokens (fun k _ => k == tokenId)
        (fun row => { row with revokedAt := some (host.nowMs n) }) db) :=
      .of_update fun _ => ⟨rfl, rfl, rfl, rfl⟩
    split_ifs
    · exact wp_fail hupdate
    · exact wp_mono (recordEvent_kept _ _ _) (fun _ _ _ h => hupdate.trans h)
        fun _ _ _ h => hupdate.trans h
  · intro _ h
    cases h

theorem issueToken_kept (token : NewOperatorToken) (auditActor : String)
    (auditSource : Option String) (trust : Bool) :
    wp (issueToken host clock token auditActor auditSource trust)
      (fun _ w' _ => AuthorityKept w.db w'.db) (fun _ w' _ => AuthorityKept w.db w'.db) w n := by
  have hrefl := AuthorityKept.refl w.db
  refine wp_bind ?_
  unfold issueTokenTimed
  split_ifs
  · exact wp_fail hrefl
  · refine wp_bind (wp_imp trustedNow_kept ?_)
    rintro now w₁ n₁ ⟨hkept, -⟩
    refine wp_bind (wp_on (wp_mono (issueTokenAt_kept token auditActor auditSource now) ?_ ?_))
    · exact fun _ _ _ h => wp_pure (wp_pure (hkept.trans h))
    · exact fun _ _ _ h => hkept.trans h
  · exact wp_fail hrefl
  · refine wp_bind (wp_draw (wp_bind (wp_on ?_)))
    exact wp_imp (issueTokenAt_kept token auditActor auditSource _)
      fun _ _ _ h => wp_pure (wp_pure h)

theorem issueSessionToken_kept (name : String) (ceiling : Tier) (ttlMs : ℤ) (auditActor : String)
    (auditSource : Option String) :
    wp (issueSessionToken host clock name ceiling ttlMs auditActor auditSource)
      (fun _ w' _ => AuthorityKept w.db w'.db) (fun _ w' _ => AuthorityKept w.db w'.db) w n := by
  refine wp_bind ?_
  unfold issueSessionTokenTimed
  split_ifs
  · exact wp_fail (.refl _)
  refine wp_bind (wp_imp trustedNow_kept ?_)
  rintro now w₁ n₁ ⟨hkept, -⟩
  cases I64.checkedAdd now ttlMs with
  | none => exact wp_fail hkept
  | some expiresAt =>
    refine wp_bind (wp_on (wp_mono (issueTokenAt_kept _ auditActor auditSource now) ?_ ?_))
    · exact fun _ _ _ h => wp_pure (wp_pure (hkept.trans h))
    · exact fun _ _ _ h => hkept.trans h

theorem tokenByHash_lookup {tokenHash : String} {row : TokenRow}
    (h : tokenByHash db tokenHash = some (tokenId, row)) :
    db.auth.tokens.lookup tokenId = some row := by
  obtain ⟨⟨id, row'⟩, hfind, heq⟩ := Option.map_eq_some_iff.1 h
  cases heq
  exact AList.mem_lookup_iff.2 (List.mem_of_find?_eq_some hfind)

variable (host db) in
theorem resetPassphraseWithHash_wp (hasher : PasswordHasher) (phc auditActor : String) :
    wp (resetPassphraseWithHash host hasher phc auditActor)
      (fun _ db' _ => TermsKept db db'
        ∧ db'.auth.state.authGeneration = db.auth.state.authGeneration + 1
        ∧ ∀ tokenId, (db'.auth.tokens.lookup tokenId).isSome
          = (db.auth.tokens.lookup tokenId).isSome)
      (fun _ db' _ => db' = db) db n := by
  unfold resetPassphraseWithHash
  split_ifs
  · exact wp_fail rfl
  refine wp_transaction rfl ?_
  refine wp_bind (wp_draw (wp_bind (wp_exec rfl (wp_bind (wp_exec rfl (wp_bind
    (wp_exec rfl (wp_bind (wp_mono (recordEvent_wp _ _ _) ?_ fun _ _ _ _ => rfl)))))))))
  rintro _ _ n' ⟨-, events, -, rfl⟩
  refine wp_pure ⟨⟨?_, rfl, fun tokenId => ?_⟩, rfl⟩
  · -- The hash and the generations leave tokens and floor; the revocations leave the terms.
    refine TermsKept.withEvents (TermsKept.trans ?_ (.of_update ?_))
    · exact .of_tokens le_rfl rfl
    · exact fun _ => ⟨rfl, rfl, rfl, rfl⟩
  · dsimp only [withEvents, updateTokens, setAuthState]
    rw [Keyed.lookup_updateWhere]
    simp

end Ops

end EdgeNode
