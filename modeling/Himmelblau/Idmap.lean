/-
  **Unix ids from directory ids**, mirror of `idmap/src/lib.rs` and of the parts of
  `sss_idmap.c` and `murmurhash3.c` that it calls.

  Every tenant has a range of unix ids.  A name is mapped into it by a hash, an object id by
  its last 32 bits.  The C library keeps a list of domains of its own, which refuses a domain
  that clashes with one of the list; the Rust wrapper keeps the ranges beside it.
-/
import Himmelblau.Interface

namespace Himmelblau.IdMap

open Interface

/-! ## 1. `murmurhash3.c` -/

def rotl (x r : UInt32) : UInt32 := (x <<< r) ||| (x >>> (32 - r))

def getblock (b0 b1 b2 b3 : UInt8) : UInt32 :=
  b0.toUInt32 ||| (b1.toUInt32 <<< 8) ||| (b2.toUInt32 <<< 16) ||| (b3.toUInt32 <<< 24)

/-- Finalization mix - force all bits of a hash block to avalanche. -/
def fmix (h : UInt32) : UInt32 :=
  let h := h ^^^ (h >>> 16)
  let h := h * 0x85ebca6b
  let h := h ^^^ (h >>> 13)
  let h := h * 0xc2b2ae35
  h ^^^ (h >>> 16)

def mixBlock (k1 : UInt32) : UInt32 := rotl (k1 * 0xcc9e2d51) 15 * 0x1b873593

/-- The loop over the blocks; the bytes that are left are the tail. -/
def hashBlocks (h1 : UInt32) : List UInt8 → UInt32 × List UInt8
  | b0 :: b1 :: b2 :: b3 :: rest =>
    hashBlocks (rotl (h1 ^^^ mixBlock (getblock b0 b1 b2 b3)) 13 * 5 + 0xe6546b64) rest
  | tail => (h1, tail)

def hashTail (h1 : UInt32) : List UInt8 → UInt32
  | [t0] => h1 ^^^ mixBlock t0.toUInt32
  | [t0, t1] => h1 ^^^ mixBlock ((t1.toUInt32 <<< 8) ^^^ t0.toUInt32)
  | [t0, t1, t2] =>
    h1 ^^^ mixBlock ((t2.toUInt32 <<< 16) ^^^ (t1.toUInt32 <<< 8) ^^^ t0.toUInt32)
  | _ => h1

def murmurhash3 (key : List UInt8) (seed : UInt32) : UInt32 :=
  let (h1, tail) := hashBlocks seed key
  fmix (hashTail h1 tail ^^^ UInt32.ofNat key.length)

/-! ## 2. `sss_idmap.c` -/

inductive IdmapError where
  | error
  | outOfMemory
  | noDomain
  | noRange
  | collision
  | utf8Error
  deriving DecidableEq, Repr

/-- A domain of the list.  `first_rid` is 0 and `external_mapping` is false for all of them. -/
structure DomainInfo where
  name : String
  sid : String
  minId : UInt32
  maxId : UInt32
  deriving DecidableEq, Repr

/-- `strcasecmp(a, b) == 0`. -/
def strcaseEq (a b : String) : Bool := a.toList.map Char.toLower == b.toList.map Char.toLower

/-- `sss_idmap_check_collision_ex` of a new domain with an old one. -/
def checkCollisionEx (old new : DomainInfo) : Bool :=
  let overlap := (old.minId ≤ new.minId && new.minId ≤ old.maxId) ||
    (old.minId ≤ new.maxId && new.maxId ≤ old.maxId)
  let namesEqual := strcaseEq new.name old.name
  let sidsEqual := strcaseEq new.sid old.sid
  -- The check of the RID ranges fails for two domains that agree in name and SID: both
  -- start at RID 0.
  overlap || namesEqual != sidsEqual || (namesEqual && sidsEqual)

def sssIdmapAddGenDomainEx (domains : List DomainInfo) (new : DomainInfo) :
    Except IdmapError (List DomainInfo) :=
  if domains.any fun old => checkCollisionEx old new then .error .collision
  else .ok (new :: domains)

/-- `range_size` ids; the sum is one of `uint32_t`. -/
def DomainInfo.rangeSize (dom : DomainInfo) : UInt32 := 1 + (dom.maxId - dom.minId)

/-- `compute_id` of an offset into the range; the comparison is one of `long long`. -/
def computeId (dom : DomainInfo) (rid : UInt32) : Option UInt32 :=
  if rid.toNat < 0xffffffff - dom.minId.toNat then
    if dom.minId + rid ≤ dom.maxId then some (dom.minId + rid) else none
  else none

section Hash

-- `u8_normalize` with `UNINORM_NFKC`, of libunistring
variable (normalize : String → Option (List UInt8))

/-- `sss_idmap_offset_murmurhash3` with its default data. -/
def offsetMurmurhash3 (rangeSize : UInt32) (input : String) : Except IdmapError UInt32 :=
  match normalize input with
  | none => .error .utf8Error
  | some val =>
    if rangeSize = 0 then .error .noRange else .ok (murmurhash3 val 0xdeadbeef % rangeSize)

/-- The loop of `sss_idmap_gen_to_unix`; `matched` is whether a domain was found. -/
def sssIdmapGenToUnix (domainId input : String) (matched : Bool) :
    List DomainInfo → Except IdmapError UInt32
  | [] => .error (if matched then .noRange else .noDomain)
  | dom :: domains =>
    if dom.sid = domainId then
      match offsetMurmurhash3 normalize dom.rangeSize input with
      | .error e => .error e
      | .ok offset =>
        match computeId dom offset with
        | some id => .ok id
        | none => sssIdmapGenToUnix domainId input true domains
    else sssIdmapGenToUnix domainId input matched domains

end Hash

/-! ## 3. `idmap/src/lib.rs` -/

/-- `sss_idmap_gen_to_unix`: an id for a name in the domain with this id. -/
abbrev CGenerator := List DomainInfo → (domainId input : String) → Except IdmapError UInt32

def sssIdmap (normalize : String → Option (List UInt8)) : CGenerator :=
  fun domains domainId input => sssIdmapGenToUnix normalize domainId input false domains

/-- `ranges` is the map of the wrapper, `domains` the list of the C library.  The list is not
    empty once a range is known: `sss_idmap_gen_to_unix` reads its head unchecked. -/
structure Idmap where
  ranges : List (String × UInt32 × UInt32)
  domains : List DomainInfo
  nonempty : ranges ≠ [] → domains ≠ []

namespace Idmap

def new : Idmap := ⟨[], [], fun h => absurd rfl h⟩

/-- `CString::new` refuses a text with a NUL. -/
def cstringOk (text : String) : Bool := !text.toList.contains '\x00'

theorem ne_nil_of_refused {domains : List DomainInfo} {new : DomainInfo} {e : IdmapError}
    (h : sssIdmapAddGenDomainEx domains new = .error e) : domains ≠ [] := by
  rintro rfl
  cases h

/-- The range is remembered before the C library is asked. -/
def addGenDomain (m : Idmap) (domainName tenantId : String) (range : UInt32 × UInt32) :
    Except IdmapError Unit × Idmap :=
  if (m.ranges.lookup tenantId).isSome then (.error .collision, m)
  else if !cstringOk domainName || !cstringOk tenantId then (.error .outOfMemory, m)
  else
    match h : sssIdmapAddGenDomainEx m.domains ⟨domainName, tenantId, range.1, range.2⟩ with
    | .error e =>
      (.error e, ⟨(tenantId, range) :: m.ranges, m.domains, fun _ => ne_nil_of_refused h⟩)
    | .ok domains => (.ok (), ⟨(tenantId, range) :: m.ranges, domains, by
        intro _ hnil
        subst hnil
        unfold sssIdmapAddGenDomainEx at h
        split at h <;> cases h⟩)

/-- `gen_to_unix`, with the generator as a parameter. -/
def genToUnixBy (gen : CGenerator) (m : Idmap) (toLowercase : String → String)
    (tenantId input : String) : Except IdmapError UInt32 :=
  if (m.ranges.lookup tenantId).isNone then .error .noDomain
  else if !cstringOk tenantId || !cstringOk (toLowercase input) then .error .outOfMemory
  else gen m.domains tenantId (toLowercase input)

def genToUnix (m : Idmap) (toLowercase : String → String)
    (normalize : String → Option (List UInt8)) : (tenantId input : String) →
    Except IdmapError UInt32 :=
  genToUnixBy (sssIdmap normalize) m toLowercase

end Idmap

/-! An object id as a SID -/

def uuidBytes (u : Uuid) : List UInt8 :=
  (List.range 16).map fun i => UInt8.ofNat (u.bits.toNat >>> (8 * (15 - i)))

structure AadSid where
  numAuths : ℕ
  idAuth : ℕ
  subAuths : List UInt32
  deriving DecidableEq, Repr

def AadSid.fromObjectId (objectId : Uuid) : AadSid :=
  let b := fun i => (uuidBytes objectId).getD i 0
  { numAuths := 5
    idAuth := 12
    subAuths := [1, getblock (b 3) (b 2) (b 1) (b 0), getblock (b 5) (b 4) (b 7) (b 6),
      getblock (b 8) (b 9) (b 10) (b 11), getblock (b 12) (b 13) (b 14) (b 15)] }

def AadSid.rid (sid : AadSid) : UInt32 := sid.subAuths.getD (sid.numAuths - 1) 0

def Idmap.objectIdToUnixId (m : Idmap) (tenantId : String) (sid : AadSid) :
    Except IdmapError UInt32 :=
  match m.ranges.lookup tenantId with
  | none => .error .noRange
  | some (lo, hi) =>
    -- hi.saturating_sub(lo), which must not be 0
    if hi ≤ lo then .error .noRange else .ok (sid.rid % (hi - lo) + lo)

/-! ## 4. Adding a domain, and mapping a name into it -/

/-- A range whose ids are all below the one that `compute_id` never returns. -/
def DomainInfo.Sane (dom : DomainInfo) : Prop := dom.minId ≤ dom.maxId ∧ dom.maxId < 0xffffffff

variable {dom : DomainInfo} {normalize : String → Option (List UInt8)} {input : String}

theorem DomainInfo.Sane.rangeSize (hsane : dom.Sane) :
    dom.rangeSize.toNat = dom.maxId.toNat - dom.minId.toNat + 1 := by
  obtain ⟨hle, hlt⟩ := hsane
  rw [UInt32.lt_iff_toNat_lt] at hlt
  have hmax : dom.maxId.toNat < 4294967295 := hlt
  unfold DomainInfo.rangeSize
  rw [UInt32.toNat_add, UInt32.toNat_sub_of_le _ _ hle]
  change (1 + _) % 4294967296 = _
  omega

theorem computeId_of_lt (hsane : dom.Sane) {rid : UInt32} (hrid : rid < dom.rangeSize) :
    computeId dom rid = some (dom.minId + rid) := by
  have hsize := hsane.rangeSize
  obtain ⟨hle, hlt⟩ := hsane
  rw [UInt32.lt_iff_toNat_lt] at hlt hrid
  rw [UInt32.le_iff_toNat_le] at hle
  have hmax : dom.maxId.toNat < 4294967295 := hlt
  have hfits : rid.toNat < 0xffffffff - dom.minId.toNat := by omega
  have hid : dom.minId + rid ≤ dom.maxId := by
    rw [UInt32.le_iff_toNat_le, UInt32.toNat_add]
    change (_ + _) % 4294967296 ≤ _
    omega
  unfold computeId
  rw [if_pos hfits, if_pos hid]

theorem offsetMurmurhash3_of_sane (hsane : dom.Sane) (hinput : (normalize input).isSome = true) :
    ∃ offset < dom.rangeSize, offsetMurmurhash3 normalize dom.rangeSize input = .ok offset := by
  obtain ⟨val, hval⟩ := Option.isSome_iff_exists.mp hinput
  have hsize := hsane.rangeSize
  have hpos : dom.rangeSize ≠ 0 := by
    intro h
    rw [h] at hsize
    change 0 = _ at hsize
    omega
  refine ⟨murmurhash3 val 0xdeadbeef % dom.rangeSize, ?_, ?_⟩
  · rw [UInt32.lt_iff_toNat_lt, UInt32.toNat_mod]
    apply Nat.mod_lt
    rw [hsize]
    exact Nat.succ_pos _
  · unfold offsetMurmurhash3
    rw [hval]
    exact if_neg hpos

theorem sssIdmapGenToUnix_of_mem (hsane : dom.Sane) (hinput : (normalize input).isSome = true)
    {domains : List DomainInfo} (hmem : dom ∈ domains)
    (honly : ∀ d ∈ domains, d.sid = dom.sid → d = dom) (matched : Bool) :
    ∃ id, sssIdmapGenToUnix normalize dom.sid input matched domains = .ok id := by
  induction domains generalizing matched with
  | nil => cases hmem
  | cons d domains ih =>
    rw [sssIdmapGenToUnix]
    by_cases hsid : d.sid = dom.sid
    · obtain rfl := honly d List.mem_cons_self hsid
      obtain ⟨offset, hlt, hoffset⟩ := offsetMurmurhash3_of_sane hsane hinput
      rw [if_pos rfl, hoffset]
      dsimp only
      rw [computeId_of_lt hsane hlt]
      exact ⟨_, rfl⟩
    · have hne : dom ≠ d := by
        rintro rfl
        exact hsid rfl
      rw [if_neg hsid]
      exact ih ((List.mem_cons.mp hmem).resolve_left hne)
        (fun d' hd' => honly d' (List.mem_cons_of_mem d hd')) matched

namespace Idmap

/-- The tenant is not known to the map, and the C library accepts the domain. -/
structure Free (m : Idmap) (new : DomainInfo) : Prop where
  unknown : m.ranges.lookup new.sid = none
  name : cstringOk new.name = true
  sid : cstringOk new.sid = true
  apart : ∀ old ∈ m.domains, checkCollisionEx old new = false

theorem addGenDomain_known {m : Idmap} {tenantId : String}
    (h : (m.ranges.lookup tenantId).isSome = true) (name : String) (range : UInt32 × UInt32) :
    m.addGenDomain name tenantId range = (.error .collision, m) := by
  unfold addGenDomain
  rw [if_pos h]

theorem addGenDomain_of_free {m : Idmap} {name tenantId : String} {range : UInt32 × UInt32}
    (h : m.Free ⟨name, tenantId, range.1, range.2⟩) :
    ∃ m', m.addGenDomain name tenantId range = (.ok (), m') ∧
      m'.ranges = (tenantId, range) :: m.ranges ∧
      m'.domains = ⟨name, tenantId, range.1, range.2⟩ :: m.domains := by
  obtain ⟨hunknown, hname, hsid, hapart⟩ := h
  have hadd : sssIdmapAddGenDomainEx m.domains ⟨name, tenantId, range.1, range.2⟩ =
      .ok (⟨name, tenantId, range.1, range.2⟩ :: m.domains) := by
    unfold sssIdmapAddGenDomainEx
    rw [if_neg]
    simpa using hapart
  unfold addGenDomain
  rw [if_neg (by simp [hunknown]), if_neg (by simp_all)]
  split
  · next e he => cases hadd.symm.trans he
  · next domains hdomains =>
    cases hadd.symm.trans hdomains
    exact ⟨_, rfl, rfl, rfl⟩

theorem addGenDomain_of_not_free {m : Idmap} {name tenantId : String} {range : UInt32 × UInt32}
    (h : ¬ m.Free ⟨name, tenantId, range.1, range.2⟩) :
    ∃ e m', m.addGenDomain name tenantId range = (.error e, m') ∧ m'.domains = m.domains ∧
      (m'.ranges = m.ranges ∨ m'.ranges = (tenantId, range) :: m.ranges) := by
  unfold addGenDomain
  split
  · exact ⟨_, _, rfl, rfl, .inl rfl⟩
  · next hunknown =>
    split
    · exact ⟨_, _, rfl, rfl, .inl rfl⟩
    · next hcstrings =>
      split
      · exact ⟨_, _, rfl, rfl, .inr rfl⟩
      · next domains hdomains =>
        refine absurd ⟨?_, ?_, ?_, ?_⟩ h
        · exact Option.not_isSome_iff_eq_none.mp hunknown
        · simp_all
        · simp_all
        · unfold sssIdmapAddGenDomainEx at hdomains
          split at hdomains
          · cases hdomains
          · next hany => simpa using hany

theorem genToUnix_of_mem {m : Idmap} (hsane : dom.Sane) (hmem : dom ∈ m.domains)
    (honly : ∀ d ∈ m.domains, d.sid = dom.sid → d = dom)
    (hknown : (m.ranges.lookup dom.sid).isSome = true) (hsid : cstringOk dom.sid = true)
    {toLowercase : String → String} (hcstring : cstringOk (toLowercase input) = true)
    (hinput : (normalize (toLowercase input)).isSome = true) :
    ∃ id, m.genToUnix toLowercase normalize dom.sid input = .ok id := by
  unfold genToUnix genToUnixBy
  rw [if_neg (by simpa [Option.isSome_iff_ne_none] using hknown), if_neg (by simp [hsid, hcstring])]
  exact sssIdmapGenToUnix_of_mem hsane hinput hmem honly false

end Idmap

theorem sid_ne_of_apart {old new : DomainInfo} (h : checkCollisionEx old new = false) :
    old.sid ≠ new.sid := by
  intro hsid
  have hrefl : strcaseEq new.sid old.sid = true := by
    rw [hsid]
    exact beq_self_eq_true _
  unfold checkCollisionEx at h
  cases hname : strcaseEq new.name old.name <;> simp [hrefl, hname] at h

end Himmelblau.IdMap
