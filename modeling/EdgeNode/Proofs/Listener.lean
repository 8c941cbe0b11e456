import EdgeNode.Ingest.Listener
import EdgeNode.Lib.Cidr

/-!
# Only local peers

A network is checked by its two ends, or by its leading bits. So the networks of an accepted
configuration are local as a whole, and a peer has to be in one of them; that the loopback is spared
in the check of the peer's address opens nothing. What the operation lets through, the listener lets
through too.
-/

namespace EdgeNode

namespace Ingest

variable {nets : IpNets} {μ : Type} {ip : IpAddr} {cidr : IpNet nets}

/-! ## Local addresses -/

/-- RFC 1918, and the unique-local addresses of IPv6, fc00::/7. -/
def IsLocal : IpAddr → Prop
  | .v4 ip => 0x0A000000 ≤ ip.toNat ∧ ip.toNat ≤ 0x0AFFFFFF
      ∨ 0xAC100000 ≤ ip.toNat ∧ ip.toNat ≤ 0xAC1FFFFF
      ∨ 0xC0A80000 ≤ ip.toNat ∧ ip.toNat ≤ 0xC0A8FFFF
  | .v6 ip => ip.toNat / 2 ^ 121 = 0x7e

theorem v4IsPrivate_iff (ip : BitVec 32) : v4IsPrivate ip = true ↔ IsLocal (.v4 ip) := by
  have hlt := ip.isLt
  simp only [v4IsPrivate, octet, IsLocal, Bool.or_eq_true, Bool.and_eq_true, beq_iff_eq,
    decide_eq_true_eq]
  norm_num
  omega

theorem segment0_toNat (ip : BitVec 128) : (segment0 ip).toNat = ip.toNat / 2 ^ 112 := by
  have hlt := ip.isLt
  rw [segment0, BitVec.extractLsb'_toNat, Nat.shiftRight_eq_div_pow]
  omega

theorem and_mask (x : BitVec 16) : x &&& 0xfe00#16 = (x >>> 9) <<< 9 := by
  refine BitVec.eq_of_getLsbD_eq fun i hi => ?_
  interval_cases i <;> simp [BitVec.getLsbD_eq_getElem]

theorem v6IsUniqueLocal_iff (ip : BitVec 128) : v6IsUniqueLocal ip = true ↔ IsLocal (.v6 ip) := by
  have hlt := ip.isLt
  have hsegment := segment0_toNat ip
  have hmask : (segment0 ip &&& 0xfe00#16 = 0xfc00#16) ↔ (segment0 ip).toNat / 512 = 0x7e := by
    have hword := (segment0 ip).isLt
    rw [and_mask, ← BitVec.toNat_inj]
    simp only [BitVec.toNat_shiftLeft, BitVec.toNat_ushiftRight, Nat.shiftRight_eq_div_pow,
      Nat.shiftLeft_eq, BitVec.toNat_ofNat]
    omega
  rw [v6IsUniqueLocal, beq_iff_eq]
  refine hmask.trans ?_
  rw [hsegment, Nat.div_div_eq_div_mul]
  rfl

theorem isPrivateAddress_iff : isPrivateAddress ip = true ↔ IsLocal ip := by
  cases ip with
  | v4 ip => exact v4IsPrivate_iff ip
  | v6 ip => exact v6IsUniqueLocal_iff ip

theorem IsLocal.not_loopback (h : IsLocal ip) : ip.isLoopback = false := by
  cases ip with
  | v4 ip =>
    simp only [IsLocal] at h
    simp only [IpAddr.isLoopback, v4IsLoopback, octet, beq_eq_false_iff_ne]
    norm_num
    omega
  | v6 ip =>
    simp only [IpAddr.isLoopback, v6IsLoopback, beq_eq_false_iff_ne]
    rintro rfl
    simp [IsLocal] at h

theorem IsLocal.not_linkLocal (h : IsLocal ip) : ip.isLinkLocal = false := by
  cases ip with
  | v4 ip =>
    simp only [IsLocal] at h
    simp only [IpAddr.isLinkLocal, octet, Bool.and_eq_false_iff, beq_eq_false_iff_ne]
    norm_num
    omega
  | v6 ip =>
    simp only [IpAddr.isLinkLocal, beq_eq_false_iff_ne]
    intro hlink
    -- The bit below the mask of the unique-local ones tells the two apart.
    have hlocal := (v6IsUniqueLocal_iff ip).2 h
    rw [v6IsUniqueLocal, beq_iff_eq] at hlocal
    have hset := congrArg (BitVec.getLsbD · 9) hlink
    have hclear := congrArg (BitVec.getLsbD · 9) hlocal
    simp only [BitVec.getLsbD_and] at hset hclear
    rw [show (0xfe00 : BitVec 16).getLsbD 9 = true by decide, Bool.and_true] at hclear
    rw [show (0xffc0 : BitVec 16).getLsbD 9 = true by decide, Bool.and_true, hclear] at hset
    exact absurd hset (by decide)

theorem IsLocal.normalizeIp (h : IsLocal ip) : Ingest.normalizeIp ip = ip := by
  cases ip with
  | v4 ip => rfl
  | v6 ip =>
    have hnone : toIpv4Mapped ip = none := by
      unfold toIpv4Mapped
      rw [if_neg]
      simp only [IsLocal] at h
      omega
    simp [Ingest.normalizeIp, hnone]

theorem normalizeIp_idem (ip : IpAddr) : normalizeIp (normalizeIp ip) = normalizeIp ip := by
  cases ip with
  | v4 ip => rfl
  | v6 ip =>
    cases hmapped : toIpv4Mapped ip with
    | none => simp [normalizeIp, hmapped]
    | some ip' => simp [normalizeIp, hmapped]

theorem toCanonical_eq (ip : IpAddr) : ip.toCanonical = normalizeIp ip := by
  cases ip with
  | v4 ip => rfl
  | v6 ip =>
    simp only [IpAddr.toCanonical, normalizeIp]
    cases toIpv4Mapped ip <;> rfl

/-! ## Networks -/

theorem cidrContains_eq (cidr : IpNet nets) (ip : IpAddr) :
    cidrContains cidr ip = cidr.contains (normalizeIp ip) := by
  unfold cidrContains IpNet.contains
  cases cidr <;> cases normalizeIp ip <;> rfl

theorem withinBlock_contains {net : nets.Net4} {address ip : BitVec 32} {length : ℕ}
    (hlength : length ≤ 32) (h : withinBlock net address length = true)
    (hip : nets.contains4 net ip = true) :
    address.toNat / 2 ^ (32 - length) * 2 ^ (32 - length) ≤ ip.toNat ∧ ip.toNat
      ≤ address.toNat / 2 ^ (32 - length) * 2 ^ (32 - length) + (2 ^ (32 - length) - 1) := by
  obtain ⟨block, hblock, hnetwork, hbroadcast⟩ := nets.new4_ok address length hlength
  rw [withinBlock, hblock, Option.any_some, Bool.and_eq_true, nets.contains4_iff,
    nets.contains4_iff] at h
  rw [nets.contains4_iff] at hip
  simp only [BitVec.le_def] at h hip
  omega

theorem withinPrivateBlock_local {net : nets.Net4} {ip : BitVec 32}
    (h : withinPrivateBlock net = true) (hip : nets.contains4 net ip = true) : IsLocal (.v4 ip) := by
  rw [withinPrivateBlock, Bool.or_eq_true, Bool.or_eq_true] at h
  rcases h with (h | h) | h
  · exact .inl (by simpa using withinBlock_contains (by decide) h hip)
  · exact .inr (.inl (by simpa using withinBlock_contains (by decide) h hip))
  · exact .inr (.inr (by simpa using withinBlock_contains (by decide) h hip))

theorem v6NetIsUniqueLocal_local {net : nets.Net6} {ip : BitVec 128}
    (h : v6NetIsUniqueLocal net = true) (hip : nets.contains6 net ip = true) :
    IsLocal (.v6 ip) := by
  rw [v6NetIsUniqueLocal, Bool.and_eq_true, decide_eq_true_eq, v6IsUniqueLocal_iff] at h
  obtain ⟨hlength, hnetwork⟩ := h
  rw [nets.contains6_iff] at hip
  have hle := nets.length6_le net
  have hpow : (2 : ℕ) ^ 121 = 2 ^ (128 - nets.length6 net) * 2 ^ (nets.length6 net - 7) := by
    rw [← pow_add]
    congr 1
    omega
  simp only [IsLocal] at hnetwork ⊢
  rw [hpow, ← Nat.div_div_eq_div_mul, hip, Nat.div_div_eq_div_mul, ← hpow, hnetwork]

theorem privateNetwork_local (h : privateNetwork cidr = true) (hip : cidr.contains ip = true) :
    IsLocal ip := by
  cases cidr with
  | v4 net =>
    cases ip with
    | v4 ip => exact withinPrivateBlock_local h hip
    | v6 ip => cases hip
  | v6 net =>
    cases ip with
    | v4 ip => cases hip
    | v6 ip => exact v6NetIsUniqueLocal_local h hip

theorem validateCidr_ok_iff : validateCidr cidr false = .ok () ↔ privateNetwork cidr = true := by
  unfold validateCidr privateNetwork
  cases cidr <;> simp

theorem forM_ok_iff {ε α : Type} {f : α → Except ε Unit} :
    ∀ {l : List α}, l.forM f = .ok () ↔ ∀ a ∈ l, f a = .ok ()
  | [] => by simp [pure, Except.pure]
  | a :: l => by
    show (f a >>= fun _ => l.forM f) = .ok () ↔ _
    rw [List.forall_mem_cons]
    rcases ha : f a with e | u
    · simp [bind, Except.bind]
    · have hrest := forM_ok_iff (f := f) (l := l)
      simpa [bind, Except.bind] using hrest

theorem validatePrivateIp_ok_iff (ip : IpAddr) :
    validatePrivateIp (normalizeIp ip) false = .ok () ↔ IsLocal (normalizeIp ip) := by
  rw [← isPrivateAddress_iff]
  unfold validatePrivateIp isPrivateAddress
  rw [normalizeIp_idem]
  cases normalizeIp ip <;> simp

/-! ## Configurations -/

def ListenerConfig.normalized (config : ListenerConfig nets μ) : ListenerConfig nets μ :=
  { config with bind := { config.bind with ip := normalizeIp config.bind.ip } }

structure Acceptable (config : ListenerConfig nets μ) (exposure : ExposureSnapshot) : Prop where
  named : isBlank config.interface = false
  short : config.interface.utf8ByteSize ≤ 64
  approved : config.interface = exposure.interface
  specified : (normalizeIp config.bind.ip).isUnspecified = false
  assigned : normalizeIp config.bind.ip ∈ exposure.addresses
  some_cidr : config.localIngressCidrs ≠ []
  few_cidrs : config.localIngressCidrs.length ≤ 8
  cidrs : ∀ cidr ∈ config.localIngressCidrs, privateNetwork cidr = true
  inside : ∃ cidr ∈ config.localIngressCidrs, cidr.contains (normalizeIp config.bind.ip) = true
  bind : IsLocal (normalizeIp config.bind.ip)

theorem cidrContains_normalizeIp (cidr : IpNet nets) (ip : IpAddr) :
    cidrContains cidr (normalizeIp ip) = cidr.contains (normalizeIp ip) := by
  rw [cidrContains_eq, normalizeIp_idem]

theorem new_ok_iff {config : ListenerConfig nets μ} {exposure : ExposureSnapshot}
    {v : ValidatedListenerConfig nets μ} :
    ValidatedListenerConfig.new config exposure = .ok v
      ↔ Acceptable config exposure
        ∧ v = ⟨config.normalized, config.mode.isPrivatePlaintext⟩ := by
  unfold ValidatedListenerConfig.new ValidatedListenerConfig.validate
  dsimp only
  constructor
  · intro h
    split_ifs at h with hinterface hunspecified hassigned hcidrs hinside
    · rcases hall : config.localIngressCidrs.forM fun cidr => validateCidr cidr false with e | u <;>
        rw [hall] at h
      · cases h
      rcases hprivate : validatePrivateIp (normalizeIp config.bind.ip) false with e | u <;>
        simp only [bind, Except.bind, hprivate] at h
      · cases h
      rw [forM_ok_iff] at hall
      push Not at hinterface hcidrs
      rw [List.any_eq_true] at hinside
      obtain ⟨cidr, hcidr, hcontains⟩ := hinside
      rw [cidrContains_normalizeIp] at hcontains
      exact ⟨⟨by simpa using hinterface.1, hinterface.2.1, hinterface.2.2,
        by simpa using hunspecified, hassigned, by simpa using hcidrs.1, hcidrs.2,
        fun cidr hcidr => validateCidr_ok_iff.1 (hall cidr hcidr), ⟨cidr, hcidr, hcontains⟩,
        (validatePrivateIp_ok_iff _).1 hprivate⟩, (Except.ok.inj h).symm⟩
    · rcases hall : config.localIngressCidrs.forM fun cidr => validateCidr cidr false with e | u <;>
        rw [hall] at h <;> cases h
  · rintro ⟨h, rfl⟩
    have hall : config.localIngressCidrs.forM (fun cidr => validateCidr cidr false) = .ok () :=
      forM_ok_iff.2 fun cidr hcidr => validateCidr_ok_iff.2 (h.cidrs cidr hcidr)
    have hinside : config.localIngressCidrs.any
        (fun cidr => cidrContains cidr (normalizeIp config.bind.ip)) = true := by
      obtain ⟨cidr, hcidr, hcontains⟩ := h.inside
      exact List.any_eq_true.2 ⟨cidr, hcidr, (cidrContains_normalizeIp cidr _).trans hcontains⟩
    rw [if_neg, if_neg, if_neg, if_neg, hall]
    · simp only [bind, Except.bind]
      rw [if_neg (by simp [hinside]), (validatePrivateIp_ok_iff _).2 h.bind]
      rfl
    · simp [h.some_cidr, h.few_cidrs]
    · exact not_not.2 h.assigned
    · simp [h.specified]
    · simp [h.named, h.short, ← h.approved]

theorem length_of_mapM {α β : Type} {f : α → Option β} :
    ∀ {l : List α} {l' : List β}, l.mapM f = some l' → l'.length = l.length
  | [], l', h => by
    rw [List.mapM_nil] at h
    exact Option.some.inj h ▸ rfl
  | a :: l, l', h => by
    rw [List.mapM_cons] at h
    obtain ⟨b, -, h⟩ := Option.bind_eq_some_iff.1 h
    obtain ⟨bs, hbs, h⟩ := Option.bind_eq_some_iff.1 h
    obtain rfl := Option.some.inj h
    rw [List.length_cons, List.length_cons, length_of_mapM hbs]

theorem validateLocalIngressConfig_ok {texts : Texts nets} {bindAddr interface : String}
    {cidrs : List String} {mode : IngressListenerMode}
    (h : validateLocalIngressConfig texts bindAddr interface cidrs mode = .ok ()) :
    ∃ bind parsed, texts.socketAddr bindAddr = some bind ∧ cidrs.mapM texts.ipNet = some parsed
      ∧ ∀ exposure : ExposureSnapshot, exposure.interface = interface →
        normalizeIp bind.ip ∈ exposure.addresses → ∀ mode' : ListenerMode μ,
        Acceptable ⟨bind, interface, parsed, mode'⟩ exposure := by
  unfold validateLocalIngressConfig at h
  split_ifs at h with hshape
  rcases hbind : texts.socketAddr bindAddr with _ | bind <;> rw [hbind] at h
  · cases h
  dsimp only at h
  split_ifs at h with hunsafe hpublic
  rcases hparsed : cidrs.mapM texts.ipNet with _ | parsed <;> rw [hparsed] at h
  · cases h
  dsimp only [validateParsed] at h
  split_ifs at h with hcidrs hplain
  rw [toCanonical_eq] at hunsafe hpublic hcidrs
  push Not at hshape hunsafe hpublic hcidrs
  have hlength : parsed.length = cidrs.length := by
    exact length_of_mapM hparsed
  refine ⟨bind, parsed, rfl, rfl, fun exposure hinterface hassigned mode' => ?_⟩
  refine ⟨by simpa using hunsafe.2.2.1, hshape.1, hinterface.symm, by simpa using hunsafe.1,
    hassigned, ?_, hlength ▸ hshape.2.1, ?_, ?_, ?_⟩
  · rintro rfl
    rw [List.length_nil, eq_comm, List.length_eq_zero_iff] at hlength
    simp [hlength] at hpublic
  · intro cidr hcidr
    by_contra hpublic'
    exact hcidrs.1 (List.any_eq_true.2 ⟨cidr, hcidr, by simpa using hpublic'⟩)
  · exact List.any_eq_true.1 (by simpa using hcidrs.2)
  · exact isPrivateAddress_iff.1 (by simpa using hpublic.1)

theorem validatePeer_local {peer : SocketAddr} {cidrs : List (IpNet nets)}
    (hcidrs : ∀ cidr ∈ cidrs, privateNetwork cidr = true) (h : validatePeer peer cidrs = .ok ()) :
    IsLocal (normalizeIp peer.ip) := by
  unfold validatePeer at h
  rcases hip : validatePrivateIp (normalizeIp peer.ip) true with e | u <;>
    simp only [bind, Except.bind, hip] at h
  · cases h
  split_ifs at h with hinside
  obtain ⟨cidr, hcidr, hcontains⟩ := List.any_eq_true.1 hinside
  rw [cidrContains_normalizeIp] at hcontains
  exact privateNetwork_local (hcidrs cidr hcidr) hcontains

/-- The bind address and the networks of an accepted configuration are local, and so is every peer
that is heard under it, never the host itself or a neighbour by its link alone. A configuration the
operation has let through is accepted by a listener whose interface has the address. -/
theorem only_local_peers (nets : IpNets) (texts : Texts nets) (μ : Type) :
    (∀ (config : ListenerConfig nets μ) (exposure : ExposureSnapshot)
      (v : ValidatedListenerConfig nets μ), ValidatedListenerConfig.new config exposure = .ok v →
      IsLocal v.config.bind.ip
        ∧ (∀ cidr ∈ v.config.localIngressCidrs, ∀ ip, cidr.contains ip = true →
          IsLocal (normalizeIp ip))
        ∧ ∀ peer, validatePeer peer v.config.localIngressCidrs = .ok () →
          IsLocal (normalizeIp peer.ip) ∧ (normalizeIp peer.ip).isLoopback = false
            ∧ (normalizeIp peer.ip).isLinkLocal = false)
      ∧ ∀ bindAddr interface cidrs mode,
        validateLocalIngressConfig texts bindAddr interface cidrs mode = .ok () →
        ∃ bind parsed, texts.socketAddr bindAddr = some bind ∧ cidrs.mapM texts.ipNet = some parsed
          ∧ ∀ exposure : ExposureSnapshot, exposure.interface = interface →
            normalizeIp bind.ip ∈ exposure.addresses → ∀ mode' : ListenerMode μ,
            ∃ v, ValidatedListenerConfig.new ⟨bind, interface, parsed, mode'⟩ exposure = .ok v := by
  refine ⟨fun config exposure v h => ?_, fun bindAddr interface cidrs mode h => ?_⟩
  · obtain ⟨haccepted, rfl⟩ := new_ok_iff.1 h
    refine ⟨haccepted.bind, fun cidr hcidr ip hip => ?_, fun peer hpeer => ?_⟩
    · have hlocal := privateNetwork_local (haccepted.cidrs cidr hcidr) hip
      rwa [hlocal.normalizeIp]
    · have hlocal := validatePeer_local haccepted.cidrs hpeer
      exact ⟨hlocal, hlocal.not_loopback, hlocal.not_linkLocal⟩
  · obtain ⟨bind, parsed, hbind, hparsed, haccepted⟩ := validateLocalIngressConfig_ok h
    exact ⟨bind, parsed, hbind, hparsed, fun exposure hinterface hassigned mode' =>
      ⟨_, new_ok_iff.2 ⟨haccepted exposure hinterface hassigned mode', rfl⟩⟩⟩

def cidrNets : IpNets where
  Net4 := Cidr 32
  Net6 := Cidr 128
  new4 address length := if h : length ≤ 32 then some ⟨address, length, h⟩ else none
  network4 := Cidr.network
  broadcast4 := Cidr.broadcast
  contains4 := Cidr.contains
  length6 := Cidr.length
  network6 := Cidr.network
  contains6 := Cidr.contains
  new4_ok address length h := ⟨⟨address, length, h⟩, dif_pos h, Cidr.toNat_network _,
    Cidr.toNat_broadcast _⟩
  contains4_iff := Cidr.contains_iff
  length6_le := Cidr.length_le
  contains6_iff net ip := by
    show net.contains ip = true ↔ ip.toNat / net.size = net.network.toNat / net.size
    rw [Cidr.toNat_network, Nat.mul_div_cancel _ net.size_pos, Cidr.contains, beq_iff_eq]

def workshopTexts : Texts cidrNets where
  socketAddr text := if text = "192.168.4.2:8443" then some ⟨.v4 0xC0A80402, 8443⟩ else none
  ipNet text := if text = "192.168.4.0/24" then some (.v4 ⟨0xC0A80400, 24, by decide⟩) else none

theorem workshop_only_local_peers :
    validateLocalIngressConfig workshopTexts "192.168.4.2:8443" "eth0" ["192.168.4.0/24"]
        .privatePlaintext = .ok ()
      ∧ ∃ bind parsed, workshopTexts.socketAddr "192.168.4.2:8443" = some bind
        ∧ ["192.168.4.0/24"].mapM workshopTexts.ipNet = some parsed
        ∧ ∀ exposure : ExposureSnapshot, exposure.interface = "eth0" →
          normalizeIp bind.ip ∈ exposure.addresses → ∀ mode' : ListenerMode Unit,
          ∃ v, ValidatedListenerConfig.new ⟨bind, "eth0", parsed, mode'⟩ exposure = .ok v :=
  ⟨by decide +kernel, (only_local_peers cidrNets workshopTexts Unit).2 _ _ _ .privatePlaintext
    (by decide +kernel)⟩

end Ingest

end EdgeNode
