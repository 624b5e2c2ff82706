/-
  **Where generated ids lie** (the range check of `main` in `daemon.rs`, and what `gen_to_unix` and
  `object_id_to_unix_id` return after it).

  The check compares one range with that of the subordinate ids, the range of a section `_` or of
  `[global]`.  Ids are generated from the range of the domain, and a section of the configuration
  may set another one, which nothing compares.
-/
import Himmelblau.ServerConfig
import Himmelblau.ProviderInit

namespace Himmelblau.IdRanges

open IdMap ServerConfig ProviderInit

/-! ## 1. The generator of the C library -/

/-- A generator answers within the inclusive range that it was given. -/
def AnswersInRange (gen : CGenerator) : Prop :=
  ∀ domains domainId input id, gen domains domainId input = .ok id →
    ∃ dom ∈ domains, dom.sid = domainId ∧ dom.minId ≤ id ∧ id ≤ dom.maxId

variable {normalize : String → Option (List UInt8)} {m : Idmap} {toLowercase : String → String}
  {id : UInt32}

theorem computeId_mem {dom : DomainInfo} {rid : UInt32} (h : computeId dom rid = some id) :
    dom.minId ≤ id ∧ id ≤ dom.maxId := by
  unfold computeId at h
  split at h
  · next hrid =>
    split at h
    · next hle =>
      obtain rfl := Option.some.inj h
      refine ⟨?_, hle⟩
      rw [UInt32.le_iff_toNat_le, UInt32.toNat_add]
      change _ ≤ (_ + _) % 4294967296
      omega
    · cases h
  · cases h

theorem sssIdmap_inRange : AnswersInRange (sssIdmap normalize) := by
  have hloop : ∀ domains domainId input matched id,
      sssIdmapGenToUnix normalize domainId input matched domains = .ok id →
        ∃ dom ∈ domains, dom.sid = domainId ∧ dom.minId ≤ id ∧ id ≤ dom.maxId := by
    intro domains domainId input matched id h
    induction domains generalizing matched with
    | nil => cases h
    | cons dom domains ih =>
      rw [sssIdmapGenToUnix] at h
      by_cases hsid : dom.sid = domainId
      · rw [if_pos hsid] at h
        rcases hoffset : offsetMurmurhash3 normalize dom.rangeSize input with e | offset
        · rw [hoffset] at h
          cases h
        · rw [hoffset] at h
          dsimp only at h
          rcases hid : computeId dom offset with _ | found
          · rw [hid] at h
            obtain ⟨d, hd, hrest⟩ := ih true h
            exact ⟨d, List.mem_cons_of_mem dom hd, hrest⟩
          · rw [hid] at h
            cases h
            exact ⟨dom, List.mem_cons_self, hsid, computeId_mem hid⟩
      · rw [if_neg hsid] at h
        obtain ⟨d, hd, hrest⟩ := ih matched h
        exact ⟨d, List.mem_cons_of_mem dom hd, hrest⟩
  intro domains domainId input id h
  exact hloop domains domainId input false id h

theorem objectIdToUnixId_mem {tenantId : String} {sid : AadSid} {range : UInt32 × UInt32}
    (hrange : m.ranges.lookup tenantId = some range)
    (h : m.objectIdToUnixId tenantId sid = .ok id) : range.1 ≤ id ∧ id < range.2 ∧
      id.toNat = range.1.toNat + sid.rid.toNat % (range.2.toNat - range.1.toNat) := by
  obtain ⟨lo, hi⟩ := range
  unfold Idmap.objectIdToUnixId at h
  rw [hrange] at h
  dsimp only at h ⊢
  by_cases hle : hi ≤ lo
  · rw [if_pos hle] at h
    cases h
  · rw [if_neg hle] at h
    cases h
    have hlt : lo.toNat < hi.toNat := by
      rw [← UInt32.lt_iff_toNat_lt]
      exact UInt32.not_le.mp hle
    have hsub : (hi - lo).toNat = hi.toNat - lo.toNat :=
      UInt32.toNat_sub_of_le _ _ (UInt32.le_of_lt (UInt32.not_le.mp hle))
    have hmod := Nat.mod_lt sid.rid.toNat (Nat.sub_pos_of_lt hlt)
    have hmax := hi.toNat_lt
    have hid : (sid.rid % (hi - lo) + lo).toNat =
        lo.toNat + sid.rid.toNat % (hi.toNat - lo.toNat) := by
      rw [UInt32.toNat_add, UInt32.toNat_mod, hsub]
      change (_ + _) % 4294967296 = _
      omega
    rw [UInt32.le_iff_toNat_le, UInt32.lt_iff_toNat_lt, hid]
    omega

/-! ## 2. The range of an initialised provider -/

section Runs

variable {ι V : Type} {D : ι → Member V} {tenantId : ι → String} {s : InitState ι V} {i : ι}

/-- The map knows the range of the provider, and the C library has no other one for its tenant. -/
structure Recorded (D : ι → Member V) (tenantId : ι → String) (m : Idmap) (i : ι) : Prop where
  range : m.ranges.lookup (tenantId i) = some (D i).range
  sid : Idmap.cstringOk (tenantId i) = true
  mem : info D tenantId i ∈ m.domains
  only : ∀ dom ∈ m.domains, dom.sid = tenantId i → dom = info D tenantId i

theorem lookup_addGenDomain {m : Idmap} {t : String} (h : (m.ranges.lookup t).isSome = true)
    (name tenantId : String) (range : UInt32 × UInt32) :
    (m.addGenDomain name tenantId range).2.ranges.lookup t = m.ranges.lookup t := by
  by_cases hknown : (m.ranges.lookup tenantId).isSome = true
  · rw [Idmap.addGenDomain_known hknown]
  · have hne : t ≠ tenantId := by
      rintro rfl
      exact hknown h
    have hcons : ((tenantId, range) :: m.ranges).lookup t = m.ranges.lookup t := by
      rw [List.lookup_cons, beq_false_of_ne hne]
    by_cases hfree : m.Free ⟨name, tenantId, range.1, range.2⟩
    · obtain ⟨m', hadd, hranges, -⟩ := Idmap.addGenDomain_of_free hfree
      rw [hadd, hranges, hcons]
    · obtain ⟨e, m', hadd, -, hranges | hranges⟩ := Idmap.addGenDomain_of_not_free hfree
      · rw [hadd, hranges]
      · rw [hadd, hranges, hcons]

theorem Recorded.addGenDomain {m : Idmap} (h : Recorded D tenantId m i) (name t : String)
    (range : UInt32 × UInt32) : Recorded D tenantId (m.addGenDomain name t range).2 i := by
  have hsome : (m.ranges.lookup (tenantId i)).isSome = true := by rw [h.range]; rfl
  have hrange := (lookup_addGenDomain hsome name t range).trans h.range
  by_cases hfree : m.Free ⟨name, t, range.1, range.2⟩
  · obtain ⟨m', hadd, -, hdomains⟩ := Idmap.addGenDomain_of_free hfree
    rw [hadd] at hrange ⊢
    refine ⟨hrange, h.sid, ?_, ?_⟩
    · rw [hdomains]
      exact List.mem_cons_of_mem _ h.mem
    · intro dom hdom hsid
      rw [hdomains] at hdom
      rcases List.mem_cons.mp hdom with rfl | hold
      · have hunknown : m.ranges.lookup t = none := hfree.unknown
        rw [show t = tenantId i from hsid, h.range] at hunknown
        cases hunknown
      · exact h.only dom hold hsid
  · obtain ⟨e, m', hadd, hdomains, -⟩ := Idmap.addGenDomain_of_not_free hfree
    rw [hadd] at hrange ⊢
    exact ⟨hrange, h.sid, hdomains ▸ h.mem, hdomains ▸ h.only⟩

theorem recorded_of_ok {m' : Idmap}
    (h : m.addGenDomain (D i).domain (tenantId i) (D i).range = (.ok (), m')) :
    Recorded D tenantId m' i := by
  by_cases hfree : m.Free (info D tenantId i)
  · obtain ⟨m'', hadd, hranges, hdomains⟩ := Idmap.addGenDomain_of_free hfree
    obtain rfl : m'' = m' := congrArg Prod.snd (hadd.symm.trans h)
    refine ⟨?_, hfree.sid, ?_, ?_⟩
    · rw [hranges, List.lookup_cons_self]
    · rw [hdomains]
      exact List.mem_cons_self
    · intro dom hdom hsid
      rw [hdomains] at hdom
      rcases List.mem_cons.mp hdom with rfl | hold
      · rfl
      · exact absurd hsid (sid_ne_of_apart (hfree.apart dom hold))
  · obtain ⟨e, m'', hadd, -⟩ := Idmap.addGenDomain_of_not_free hfree
    cases hadd.symm.trans h

theorem attemptOn_keeps (h : Recorded D tenantId m i) (M : Member V) (v : V) (initialized : Bool) :
    Recorded D tenantId (M.attemptOn v m initialized).2.1 i := by
  unfold Member.attemptOn
  cases initialized with
  | true => exact h
  | false =>
    rw [if_neg Bool.false_ne_true]
    rcases M.tenant v with _ | t
    · exact h
    · have hadd := h.addGenDomain M.domain t M.range
      dsimp only
      generalize m.addGenDomain M.domain t M.range = r at hadd ⊢
      rcases r with ⟨e | u, m'⟩ <;> exact hadd

theorem attemptOn_records {v : V} (htenant : ∀ t, (D i).tenant v = some t → t = tenantId i)
    (h : ((D i).attemptOn v m false).2.2 = true) :
    Recorded D tenantId ((D i).attemptOn v m false).2.1 i := by
  unfold Member.attemptOn at h ⊢
  rw [if_neg Bool.false_ne_true] at h ⊢
  rcases hdiscovered : (D i).tenant v with _ | t
  · rw [hdiscovered] at h
    cases h
  · obtain rfl := htenant t hdiscovered
    rw [hdiscovered] at h
    dsimp only at h ⊢
    rcases hadd : m.addGenDomain (D i).domain (tenantId i) (D i).range with ⟨e | u, m'⟩
    · rw [hadd] at h
      cases h
    · exact recorded_of_ok hadd

theorem attempt_recorded [DecidableEq ι]
    (htenant : ∀ i v t, (D i).tenant v = some t → t = tenantId i)
    (h : ∀ i, s.ready i = true → Recorded D tenantId s.idmap i) (j : ι) (v : V) (i : ι)
    (hready : (attempt D s j v).2.ready i = true) :
    Recorded D tenantId (attempt D s j v).2.idmap i := by
  have heq := attempt_eq D s j v
  have hidmap : (attempt D s j v).2.idmap = ((D j).attemptOn v s.idmap (s.ready j)).2.1 :=
    congrArg (·.2.1) heq
  have hnow : (attempt D s j v).2.ready j = ((D j).attemptOn v s.idmap (s.ready j)).2.2 :=
    congrArg (·.2.2) heq
  rw [hidmap]
  by_cases hold : s.ready i = true
  · exact attemptOn_keeps (h i hold) (D j) v (s.ready j)
  · obtain rfl : i = j := by
      by_contra hne
      rw [attempt_ready_of_ne D s hne] at hready
      exact hold hready
    have hnot : s.ready i = false := Bool.eq_false_of_not_eq_true hold
    rw [hready, hnot] at hnow
    rw [hnot]
    exact attemptOn_records (htenant i v) hnow.symm

theorem runAttempts_recorded [DecidableEq ι]
    (htenant : ∀ i v t, (D i).tenant v = some t → t = tenantId i)
    (hstarted : s.Started) (attempts : List (ι × V)) (i : ι)
    (hready : (runAttempts D s attempts).ready i = true) :
    Recorded D tenantId (runAttempts D s attempts).idmap i := by
  induction attempts using List.reverseRecOn generalizing i with
  | nil => cases (hstarted.ready i).symm.trans hready
  | append_singleton attempts a ih =>
    unfold runAttempts at ih hready ⊢
    rw [List.foldl_append] at hready ⊢
    exact attempt_recorded htenant ih a.1 a.2 i hready

/-! ## 3. Generated ids and subordinate ids -/

def InRange (range : UInt32 × UInt32) (id : UInt32) : Prop := range.1 ≤ id ∧ id ≤ range.2

instance (range : UInt32 × UInt32) (id : UInt32) : Decidable (InRange range id) :=
  inferInstanceAs (Decidable (_ ∧ _))

def Shares (a b : UInt32 × UInt32) : Prop := ∃ id, InRange a id ∧ InRange b id

inductive Generates (toLowercase : String → String) (m : Idmap) (tenantId : String) :
    UInt32 → Prop
  | objectId {sid : AadSid} {id : UInt32} (h : m.objectIdToUnixId tenantId sid = .ok id) :
      Generates toLowercase m tenantId id
  | name {gen : CGenerator} (hgen : AnswersInRange gen) {input : String} {id : UInt32}
      (h : m.genToUnixBy gen toLowercase tenantId input = .ok id) :
      Generates toLowercase m tenantId id

theorem Recorded.generates_mem (h : Recorded D tenantId m i)
    (hid : Generates toLowercase m (tenantId i) id) : InRange (D i).range id := by
  cases hid with
  | objectId hid =>
    obtain ⟨hlo, hhi, -⟩ := objectIdToUnixId_mem h.range hid
    exact ⟨hlo, UInt32.le_of_lt hhi⟩
  | name hgen hid =>
    unfold Idmap.genToUnixBy at hid
    split at hid
    · cases hid
    · split at hid
      · cases hid
      · obtain ⟨dom, hmem, hsid, hin⟩ := hgen _ _ _ _ hid
        rw [h.only dom hmem hsid] at hin
        exact hin

def always (id : UInt32) : CGenerator := fun domains domainId _ =>
  if domains.any fun dom => decide (dom.sid = domainId ∧ dom.minId ≤ id ∧ id ≤ dom.maxId) then
    .ok id
  else .error .noRange

theorem always_inRange : AnswersInRange (always id) := by
  intro domains domainId input found h
  unfold always at h
  split at h
  · next hany =>
    cases h
    obtain ⟨dom, hmem, hdom⟩ := List.any_eq_true.mp hany
    exact ⟨dom, hmem, of_decide_eq_true hdom⟩
  · cases h

theorem Recorded.generates_of_mem (h : Recorded D tenantId m i) (hlower : toLowercase "" = "")
    (hid : InRange (D i).range id) : Generates toLowercase m (tenantId i) id := by
  suffices h : m.genToUnixBy (always id) toLowercase (tenantId i) "" = .ok id from
    .name (always_inRange) h
  have hany : m.domains.any (fun dom =>
      decide (dom.sid = tenantId i ∧ dom.minId ≤ id ∧ id ≤ dom.maxId)) = true :=
    List.any_eq_true.mpr ⟨_, h.mem, decide_eq_true ⟨rfl, hid⟩⟩
  unfold Idmap.genToUnixBy always
  rw [h.range, h.sid, hlower]
  exact if_pos hany

end Runs

/-! ## 4. The check at start-up -/

section Check

variable {I : Type} {P : IniParser I} {config : I}

theorem not_shares_of_startUpCheck (h : P.startUpCheck config = true) :
    ¬ Shares (P.getIdmapRange config "_") (P.getSubidRange config) := by
  rintro ⟨id, ⟨hlo, hhi⟩, hlo', hhi'⟩
  unfold IniParser.startUpCheck at h
  have hfirst := UInt32.le_trans hlo hhi'
  have hsecond := UInt32.le_trans hlo' hhi
  simp [hfirst, hsecond] at h

theorem getIdmapRange_eq {domain : String} (hdomain : P.get config domain "idmap_range" = none)
    (hchecked : P.get config "_" "idmap_range" = none) :
    P.getIdmapRange config domain = P.getIdmapRange config "_" := by
  unfold IniParser.getIdmapRange
  rw [hdomain, hchecked]

/-- **The ids that an initialised provider may generate are no subordinate ids** if and only if the
    range of its domain has none.  The check makes sure of that for a domain whose section sets no
    range; ids of objects always lie in `[low, high)` of the domain's range. -/
theorem generated_ids_apart_iff {ι V : Type} [DecidableEq ι] (hP : P.Lawful)
    (hcheck : P.startUpCheck config = true) {D : ι → Member V}
    (hranges : ∀ i, (D i).range = P.getIdmapRange config (D i).domain) {tenantId : ι → String}
    (htenant : ∀ i v t, (D i).tenant v = some t → t = tenantId i) {s : InitState ι V}
    (hstarted : s.Started) (attempts : List (ι × V)) {i : ι}
    (hready : (runAttempts D s attempts).ready i = true) :
    ((∀ id, Generates P.toLowercase (runAttempts D s attempts).idmap (tenantId i) id →
        ¬ InRange (P.getSubidRange config) id) ↔
      ¬ Shares (P.getIdmapRange config (D i).domain) (P.getSubidRange config)) ∧
    (P.get config (D i).domain "idmap_range" = none → P.get config "_" "idmap_range" = none →
      ¬ Shares (P.getIdmapRange config (D i).domain) (P.getSubidRange config)) ∧
    ∀ sid id, (runAttempts D s attempts).idmap.objectIdToUnixId (tenantId i) sid = .ok id →
      let range := P.getIdmapRange config (D i).domain
      range.1 ≤ id ∧ id < range.2 ∧
        id.toNat = range.1.toNat + sid.rid.toNat % (range.2.toNat - range.1.toNat) := by
  have hrecorded := runAttempts_recorded htenant hstarted attempts i hready
  refine ⟨⟨?_, ?_⟩, ?_, ?_⟩
  · rintro h ⟨id, hid, hsubid⟩
    rw [← hranges i] at hid
    have hlower : P.toLowercase "" = "" := hP.lower_key "" (fun _ hc => by cases hc)
    exact h id (hrecorded.generates_of_mem hlower hid) hsubid
  · intro h id hid hsubid
    refine h ⟨id, ?_, hsubid⟩
    rw [← hranges i]
    exact hrecorded.generates_mem hid
  · intro hdomain hchecked
    rw [getIdmapRange_eq hdomain hchecked]
    exact not_shares_of_startUpCheck hcheck
  · intro sid id hid
    rw [← hranges i]
    exact objectIdToUnixId_mem hrecorded.range hid

end Check

/-! ## 5. Two configurations -/

def sampleDomain (range : UInt32 × UInt32) (_ : Unit) : Member (Option Bool) :=
  .entra { domain := "example.com", config := sampleConfig 3 false, outside := sampleOutside }
    (sampleGraph "tenant of example.com") range

theorem generated_ids_apart_default :
    let D := sampleDomain IniParser.defaultIdmapRange
    ∀ id, Generates asciiLower (runAttempts D (sampleStart none) [((), some true)]).idmap
      "tenant of example.com" id → ¬ InRange IniParser.defaultSubidRange id := by
  intro D
  have hcheck : plainIni.startUpCheck [] = true := by decide +kernel
  have hready : (runAttempts D (sampleStart none) [((), some true)]).ready () = true := by
    decide +kernel
  have htenant : ∀ i v t, (D i).tenant v = some t → t = "tenant of example.com" := by
    intro i v t ht
    cases v with
    | none => cases ht
    | some b => exact (Option.some.inj ht).symm
  have h := generated_ids_apart_iff plainIni_lawful hcheck (fun _ => rfl) htenant
    ⟨rfl, fun _ => rfl⟩ [((), some true)] hready
  exact h.1.mpr (h.2.1 rfl rfl)

def overridden : PlainIni := [(("example.com", "idmap_range"), "2100000000-2100099999")]

/-- The check passes, and an object id gets the first of the subordinate ids. -/
theorem generated_id_is_subordinate :
    let D := sampleDomain (plainIni.getIdmapRange overridden "example.com")
    plainIni.startUpCheck overridden = true ∧
      (runAttempts D (sampleStart none) [((), some true)]).ready () = true ∧
      (runAttempts D (sampleStart none) [((), some true)]).idmap.objectIdToUnixId
        "tenant of example.com" (AadSid.fromObjectId ⟨0⟩) = .ok 2100000000 ∧
      InRange (plainIni.getSubidRange overridden) 2100000000 := by
  decide +kernel

end Himmelblau.IdRanges
