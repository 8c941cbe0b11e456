import EdgeNode.Proofs.Dispatch

/-!
# What the audit event reveals

The parameters are redacted before they are written down: a value under a sensitive key as a whole,
and any other text that carries a token or a private key. The keys, the targets and what is known of
the caller are written as they are.
-/

namespace EdgeNode

namespace Ops

variable {ρ : Type} {s t : String}

/-! ## Redaction -/

theorem secretText_of_infix (h : t.toList <:+: s.toList) (ht : secretText t = true) :
    secretText s = true := by
  simp only [secretText, hasMarker, List.any_eq_true, decide_eq_true_eq] at ht ⊢
  obtain ⟨marker, hmarker, hinfix⟩ := ht
  exact ⟨marker, hmarker, hinfix.trans h⟩

mutual

def keptKeys : Json → List String
  | .obj fields => keptFieldKeys fields
  | .arr items => keptItemKeys items
  | _ => []

def keptItemKeys : List Json → List String
  | [] => []
  | item :: items => keptKeys item ++ keptItemKeys items

def keptFieldKeys : List (String × Json) → List String
  | [] => []
  | (key, value) :: fields =>
    key :: (if sensitiveKey key then [] else keptKeys value) ++ keptFieldKeys fields

end

mutual

theorem keptKeys_subset_strings : ∀ value : Json, keptKeys value ⊆ value.strings
  | .null | .bool _ | .int _ | .float _ | .str _ => by simp [keptKeys]
  | .arr items => keptItemKeys_subset_strings items
  | .obj fields => keptFieldKeys_subset_strings fields

theorem keptItemKeys_subset_strings :
    ∀ items : List Json, keptItemKeys items ⊆ Json.stringsOfItems items
  | [] => by simp [keptItemKeys]
  | item :: items =>
    List.append_subset.2 ⟨List.subset_append_of_subset_left _ (keptKeys_subset_strings item),
      List.subset_append_of_subset_right _ (keptItemKeys_subset_strings items)⟩

theorem keptFieldKeys_subset_strings :
    ∀ fields : List (String × Json), keptFieldKeys fields ⊆ Json.stringsOfFields fields
  | [] => by simp [keptFieldKeys]
  | (key, value) :: fields => by
    have hvalue := keptKeys_subset_strings value
    have hfields := keptFieldKeys_subset_strings fields
    intro s hs
    simp only [keptFieldKeys, Json.stringsOfFields, List.mem_cons, List.mem_append] at hs ⊢
    rcases hs with (rfl | hs) | hs
    · exact .inl (.inl rfl)
    · split_ifs at hs
      · simp at hs
      · exact .inl (.inr (hvalue hs))
    · exact .inr (hfields hs)

end

mutual

theorem secret_of_redacted : ∀ value : Json, s ∈ (redactAuditValue value).strings →
    secretText s = true → s ∈ keptKeys value
  | .null, h, _ | .bool _, h, _ | .int _, h, _ | .float _, h, _ => by
    simp [redactAuditValue, Json.strings] at h
  | .str text, h, hsecret => by
    -- A text with a marker has been replaced, and the replacement has none.
    obtain rfl : s = if secretText text then "[REDACTED]" else text := by
      simpa [redactAuditValue, Json.strings] using h
    split_ifs at hsecret with htext
    · exact absurd hsecret (by decide +kernel)
    · exact absurd hsecret htext
  | .arr items, h, hsecret => secret_of_redactedItems items h hsecret
  | .obj fields, h, hsecret => secret_of_redactedFields fields h hsecret

theorem secret_of_redactedItems : ∀ items : List Json,
    s ∈ Json.stringsOfItems (redactItems items) → secretText s = true → s ∈ keptItemKeys items
  | [], h, _ => by simp [redactItems, Json.stringsOfItems] at h
  | item :: items, h, hsecret => by
    rcases List.mem_append.1 h with h | h
    · exact List.mem_append_left _ (secret_of_redacted item h hsecret)
    · exact List.mem_append_right _ (secret_of_redactedItems items h hsecret)

theorem secret_of_redactedFields : ∀ fields : List (String × Json),
    s ∈ Json.stringsOfFields (redactFields fields) → secretText s = true →
      s ∈ keptFieldKeys fields
  | [], h, _ => by simp [redactFields, Json.stringsOfFields] at h
  | (key, value) :: fields, h, hsecret => by
    have hvalue := secret_of_redacted value
    have hfields := secret_of_redactedFields fields
    simp only [redactFields, Json.stringsOfFields, keptFieldKeys, List.mem_cons, List.mem_append]
      at h ⊢
    rcases h with (rfl | h) | h
    · exact .inl (.inl rfl)
    · by_cases hkey : sensitiveKey key = true
      · obtain rfl : s = "[REDACTED]" := by simpa [hkey, Json.strings] using h
        exact absurd hsecret (by decide +kernel)
      · rw [if_neg hkey] at h ⊢
        exact .inl (.inr (hvalue h hsecret))
    · exact .inr (hfields h hsecret)

end

mutual

theorem keptKeys_subset_redacted :
    ∀ value : Json, keptKeys value ⊆ (redactAuditValue value).strings
  | .null | .bool _ | .int _ | .float _ | .str _ => by simp [keptKeys]
  | .arr items => keptItemKeys_subset_redacted items
  | .obj fields => keptFieldKeys_subset_redacted fields

theorem keptItemKeys_subset_redacted :
    ∀ items : List Json, keptItemKeys items ⊆ Json.stringsOfItems (redactItems items)
  | [] => by simp [keptItemKeys]
  | item :: items =>
    List.append_subset.2 ⟨List.subset_append_of_subset_left _ (keptKeys_subset_redacted item),
      List.subset_append_of_subset_right _ (keptItemKeys_subset_redacted items)⟩

theorem keptFieldKeys_subset_redacted :
    ∀ fields : List (String × Json),
      keptFieldKeys fields ⊆ Json.stringsOfFields (redactFields fields)
  | [] => by simp [keptFieldKeys]
  | (key, value) :: fields => by
    have hvalue := keptKeys_subset_redacted value
    have hfields := keptFieldKeys_subset_redacted fields
    intro s hs
    simp only [keptFieldKeys, redactFields, Json.stringsOfFields, List.mem_cons, List.mem_append]
      at hs ⊢
    rcases hs with (rfl | hs) | hs
    · exact .inl (.inl rfl)
    · split_ifs at hs ⊢ with hkey
      · simp at hs
      · exact .inl (.inr (hvalue hs))
    · exact .inr (hfields hs)

end

/-! ## The event -/

def Appears (text : String) (detail : Json) : Prop :=
  ∃ s ∈ detail.strings, text.toList <:+: s.toList

def secrets (descriptor : OpDescriptor ρ) (request : DispatchRequest) : List String :=
  (request.params.strings ++ descriptor.targets request.params).filter secretText

def callerTexts (request : DispatchRequest) : List String :=
  request.op :: request.actor.actorId :: request.source.toList

theorem secretText_of_mem_secrets {descriptor : OpDescriptor ρ} {request : DispatchRequest}
    (h : t ∈ secrets descriptor request) : secretText t = true :=
  (List.mem_filter.1 h).2

theorem auditResult_public (result : Except OpError DispatchResult) :
    secretText (auditResult result) = false := by
  rcases result with (_ | _ | _ | _ | _ | _ | _) | _
  all_goals
    simp only [auditResult, OpError.code]
    decide +kernel

theorem tier_public (tier : Tier) : secretText tier.asStr = false := by
  cases tier <;> decide +kernel

theorem actorKind_public (kind : ActorKind) : secretText kind.asStr = false := by
  cases kind <;> decide +kernel

theorem auditKeys_public : ∀ key ∈ ["op", "actor", "actor_kind", "tier", "effective_tier", "dry_run",
    "params", "result", "targets", "source"], secretText key = false := by decide +kernel

theorem mem_strings_jsonText {source : Option String} :
    s ∈ (jsonText source).strings ↔ s ∈ source.toList := by
  cases source <;> simp [jsonText, Json.strings]

theorem secret_of_auditDetail {descriptor : OpDescriptor ρ} {request : DispatchRequest}
    {result : Except OpError DispatchResult}
    (h : s ∈ (auditDetail descriptor request result).strings) (hsecret : secretText s = true) :
    s ∈ keptKeys request.params ∨ s ∈ descriptor.targets request.params
      ∨ s ∈ callerTexts request := by
  obtain ⟨f, hf, rfl | hs⟩ := Json.mem_strings_object.1 h
  · have hpublic := auditKeys_public f.1 (List.mem_map_of_mem hf)
    simp [hpublic] at hsecret
  simp only [List.mem_cons, List.not_mem_nil, or_false] at hf
  rcases hf with rfl | rfl | rfl | rfl | rfl | rfl | rfl | rfl | rfl | rfl
  all_goals simp only [Json.strings, List.mem_singleton, List.not_mem_nil] at hs
  · exact .inr (.inr (by simp [callerTexts, hs]))
  · exact .inr (.inr (by simp [callerTexts, hs]))
  · simp [hs, actorKind_public] at hsecret
  · simp [hs, tier_public] at hsecret
  · simp [hs, tier_public] at hsecret
  · exact .inl (secret_of_redacted _ hs hsecret)
  · simp [hs, auditResult_public] at hsecret
  · obtain ⟨item, hitem, hs⟩ := Json.mem_stringsOfItems.1 hs
    obtain ⟨target, htarget, rfl⟩ := List.mem_map.1 hitem
    obtain rfl : s = target := by simpa [Json.strings] using hs
    exact .inr (.inl htarget)
  · rw [mem_strings_jsonText] at hs
    exact .inr (.inr (List.mem_cons_of_mem _ (List.mem_cons_of_mem _ hs)))

theorem mem_auditDetail {descriptor : OpDescriptor ρ} {request : DispatchRequest}
    {result : Except OpError DispatchResult}
    (h : s ∈ keptKeys request.params ∨ s ∈ descriptor.targets request.params
      ∨ s ∈ callerTexts request) : s ∈ (auditDetail descriptor request result).strings := by
  refine Json.mem_strings_object.2 ?_
  rcases h with h | h | h
  · exact ⟨("params", _), by simp, .inr (keptKeys_subset_redacted _ h)⟩
  · refine ⟨("targets", .arr ((descriptor.targets request.params).map .str)), by simp, .inr ?_⟩
    exact Json.mem_stringsOfItems.2 ⟨.str s, List.mem_map_of_mem h, by simp [Json.strings]⟩
  · simp only [callerTexts, List.mem_cons] at h
    rcases h with rfl | rfl | h
    · exact ⟨("op", .str request.op), by simp, .inr (by simp [Json.strings])⟩
    · exact ⟨("actor", .str request.actor.actorId), by simp, .inr (by simp [Json.strings])⟩
    · exact ⟨("source", jsonText request.source), by simp, .inr (mem_strings_jsonText.2 h)⟩

/-- The event reveals no secret exactly when no key it keeps and no target carries a marker, and the
caller is not known by a secret of the parameters. -/
theorem audit_reveals_no_secret_iff (descriptor : OpDescriptor ρ) (request : DispatchRequest)
    (result : Except OpError DispatchResult) :
    (∀ t ∈ secrets descriptor request, ¬ Appears t (auditDetail descriptor request result))
      ↔ (∀ key ∈ keptKeys request.params, secretText key = false)
        ∧ (∀ target ∈ descriptor.targets request.params, secretText target = false)
        ∧ ∀ t ∈ secrets descriptor request, ∀ s ∈ callerTexts request,
          ¬ t.toList <:+: s.toList := by
  constructor
  · intro h
    have happears : ∀ s, (s ∈ keptKeys request.params ∨ s ∈ descriptor.targets request.params) →
        secretText s = false := by
      intro s hs
      by_contra hsecret
      have hmem : s ∈ secrets descriptor request := by
        refine List.mem_filter.2 ⟨List.mem_append.2 (hs.imp_left fun h => ?_), by simpa using hsecret⟩
        exact keptKeys_subset_strings _ h
      exact h s hmem ⟨s, mem_auditDetail (hs.imp_right .inl), List.infix_rfl⟩
    refine ⟨fun key hkey => happears key (.inl hkey), fun target ht => happears target (.inr ht), ?_⟩
    exact fun t ht s hs hinfix => h t ht ⟨s, mem_auditDetail (.inr (.inr hs)), hinfix⟩
  · rintro ⟨hkeys, htargets, hcaller⟩ t ht ⟨s, hs, hinfix⟩
    have hsecret := secretText_of_infix hinfix (secretText_of_mem_secrets ht)
    rcases secret_of_auditDetail hs hsecret with h | h | h
    · simp [hkeys s h] at hsecret
    · simp [htargets s h] at hsecret
    · exact hcaller t ht s h hinfix

open Confirmation (plainHost)

/-- A token passed where its identifier belongs: the operation refuses it, and the event carries it
as a target. -/
theorem refused_token_is_in_the_audit :
    let request := revocation ["iko_4f1c"]
    let descriptor : OpDescriptor Unit := revokeDescriptor plainHost
    let out := dispatchWithSecretDir stoppedClock plainHost {} (pure ()) tokenCatalog request none
      ⟨freshJournal, [], 0⟩
    let detail := auditDetail descriptor request (.error .notFound)
    out.1 = .error .notFound
    ∧ out.2.db.db.ledger.events.rows.map (fun r => (r.2.kind, r.2.detail))
      = [("r14_op", String.ofList (detail.compact plainHost.showFloat))]
    ∧ "iko_4f1c" ∈ secrets descriptor request ∧ Appears "iko_4f1c" detail := by
  refine ⟨rfl, rfl, by decide +kernel, "iko_4f1c", ?_, List.infix_rfl⟩
  exact mem_auditDetail (.inr (.inl (by decide +kernel)))

end Ops

end EdgeNode
