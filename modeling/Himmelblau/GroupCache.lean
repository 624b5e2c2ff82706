/-
  **Which of a user's groups are in the cache.**  `set_cache_usertoken` writes the groups of the
  token one by one with `INSERT OR REPLACE`, and a group replaces every other one that has its name.
  Display names are not unique in a directory, so a group can be replaced by the next one; and
  `get_group` compares a text with the uuid, the name and the spn, so a name that is another group's
  uuid makes the lookup ambiguous.
-/
import Himmelblau.AccountCache
import Himmelblau.ResolverExec

namespace Himmelblau.Db

open Interface UniqueTable GroupRow

/-! ## 1. Rows that one text finds -/

namespace GroupRow

def texts (r : GroupRow) : List String := [r.uuid.hyphenated, r.name, r.spn]

def Confusable (r r' : GroupRow) : Prop := ∃ x ∈ r.texts, x ∈ r'.texts

theorem answersTo_iff {r : GroupRow} {x : String} : r.answersTo x = true ↔ x ∈ r.texts := by
  simp only [answersTo, texts, Bool.or_eq_true, beq_iff_eq, List.mem_cons, List.not_mem_nil,
    or_false, or_assoc]
  simp only [eq_comm (a := x)]

theorem clash_refl (r : GroupRow) : r.clash r := .inl rfl

theorem clash_symm (a b : GroupRow) (h : a.clash b) : b.clash a := by
  unfold clash at h ⊢
  rcases h with h | h | h | h <;> simp [h]

end GroupRow

namespace Database

variable {db : Database}

def GroupsClear (db : Database) : Prop :=
  ∀ r ∈ db.groupT.rows, ∀ r' ∈ db.groupT.rows, r.uuid ≠ r'.uuid → ¬r.Confusable r'

theorem unambiguous_group_gid (db : Database) (gid : UInt32) :
    db.groupT.Unambiguous fun r => r.gidnumber == gid :=
  db.groupT.unambiguous_column clash_symm (fun _ _ h => .inr (.inr (.inr h))) gid

theorem groupsClear_iff_unambiguous (db : Database) :
    db.GroupsClear ↔ ∀ x, db.groupT.Unambiguous (·.answersTo x) := by
  rw [db.groupT.unambiguous_iff clash_symm (fun _ _ => .inl)
    fun x r => answersTo r x]
  simp only [answersTo_iff]
  exact Iff.rfl

theorem getGroup_ne_tooManyResults_iff (db : Database) :
    (∀ grpId, db.getGroup grpId ≠ .error .tooManyResults) ↔ db.GroupsClear := by
  rw [groupsClear_iff_unambiguous]
  constructor
  · intro h x
    exact (oneRow_filter_ne_tooManyResults_iff _ clash_refl _ _).mp (h (.name x))
  · intro h grpId
    cases grpId with
    | name x => exact (oneRow_filter_ne_tooManyResults_iff _ clash_refl _ _).mpr (h x)
    | gid gid =>
      exact (oneRow_filter_ne_tooManyResults_iff _ clash_refl _ _).mpr
        (db.unambiguous_group_gid gid)

/-! ## 2. Writing the groups -/

def SparedBy (groups : List GroupToken) (r : GroupRow) : Prop :=
  ∀ g ∈ groups, r.uuid ≠ g.uuid ∧ r.name ≠ g.name ∧ r.spn ≠ g.spn ∧ r.gidnumber ≠ g.gidnumber

theorem sparedBy_iff {groups : List GroupToken} {r : GroupRow} (expire : ℤ) :
    SparedBy groups r ↔ ∀ a ∈ groups.map (ofToken expire), ¬r.clash a := by
  simp only [SparedBy, List.forall_mem_map, clash, ofToken, not_or]

/-- Every group is found by its gid and by its uuid as itself, and no lookup is ambiguous. -/
structure GroupsKept (db : Database) (groups : List GroupToken) : Prop where
  found : ∀ g ∈ groups, ∃ expire, db.getGroup (.gid g.gidnumber) = .ok (some (g, expire)) ∧
    db.getGroup (.name g.uuid.hyphenated) = .ok (some (g, expire))
  single : ∀ grpId, db.getGroup grpId ≠ .error .tooManyResults

/-- No text finds two of the groups and of the cached groups that they spare. -/
structure Unmistakable (db : Database) (groups : List GroupToken) : Prop where
  cached : ∀ r ∈ db.groupT.rows, ∀ r' ∈ db.groupT.rows, SparedBy groups r → SparedBy groups r' →
    r.uuid ≠ r'.uuid → ¬r.Confusable r'
  mixed : ∀ r ∈ db.groupT.rows, SparedBy groups r → ∀ g ∈ groups,
    ¬r.Confusable (.ofToken 0 g)
  own : ∀ g ∈ groups, ∀ g' ∈ groups, g.uuid ≠ g'.uuid →
    ¬(ofToken 0 g).Confusable (.ofToken 0 g')

section Write

variable {db' : Database} {groups : List GroupToken} {expire : ℕ}

def Wrote (groups : List GroupToken) (expire : ℕ) (db db' : Database) : Prop :=
  db'.groupT = (groups.map (ofToken expire)).foldl Table.replace db.groupT

theorem Wrote.cases (h : Wrote groups expire db db') {r : GroupRow} (hr : r ∈ db'.groupT.rows) :
    (r ∈ db.groupT.rows ∧ SparedBy groups r) ∨ ∃ g ∈ groups, r = .ofToken expire g := by
  rw [h] at hr
  rcases Table.mem_or_mem_of_foldl_replace hr with ⟨hold, hclash⟩ | hnew
  · exact .inl ⟨hold, (sparedBy_iff expire).mpr hclash⟩
  · obtain ⟨g, hg, rfl⟩ := List.mem_map.mp hnew
    exact .inr ⟨g, hg, rfl⟩

theorem Wrote.mem_of_spared (h : Wrote groups expire db db') {r : GroupRow}
    (hr : r ∈ db.groupT.rows) (hspared : SparedBy groups r) : r ∈ db'.groupT.rows := by
  rw [h]
  exact Table.mem_foldl_replace_of_mem hr ((sparedBy_iff expire).mp hspared)

theorem Wrote.mem_of_found (h : Wrote groups expire db db') {g : GroupToken} (hg : g ∈ groups)
    {n : ℕ} (hfound : db'.getGroup (.gid g.gidnumber) = .ok (some (g, n))) :
    ofToken expire g ∈ db'.groupT.rows := by
  obtain ⟨expiry, hdata⟩ := oneRow_eq_some hfound
  change db'.getGroupDataGid g.gidnumber = _ at hdata
  have hmem : (some g, expiry) ∈ db'.getGroupDataGid g.gidnumber := by
    rw [hdata]
    exact List.mem_singleton_self _
  obtain ⟨r, hr, hcolumns⟩ := List.mem_map.mp hmem
  obtain ⟨hr, hgid⟩ := List.mem_filter.mp hr
  have htoken : r.token = some g := congrArg Prod.fst hcolumns
  rcases h.cases hr with ⟨-, hspared⟩ | ⟨g', -, rfl⟩
  · exact absurd (beq_iff_eq.mp hgid) (hspared g hg).2.2.2
  · cases htoken
    exact hr

theorem Unmistakable.pairwise (h : Unmistakable db groups)
    (hdistinct : groups.Pairwise fun g g' => g.uuid ≠ g'.uuid ∧ g.gidnumber ≠ g'.gidnumber) :
    (groups.map (ofToken expire)).Pairwise fun a b => ¬a.clash b := by
  rw [List.pairwise_map]
  refine hdistinct.imp_of_mem ?_
  rintro g g' hg hg' ⟨huuid, hgid⟩ hclash
  have hown := h.own g hg g' hg' huuid
  rcases hclash with heq | heq | heq | heq
  · exact huuid heq
  · exact hown ⟨g.name, by simp [texts, ofToken],
      (congrArg (· ∈ _) heq).mpr (by simp [texts, ofToken])⟩
  · exact hown ⟨g.spn, by simp [texts, ofToken],
      (congrArg (· ∈ _) heq).mpr (by simp [texts, ofToken])⟩
  · exact hgid heq

/-- **One token.**  The groups are kept exactly if no text finds two of them. -/
theorem Wrote.groupsKept_iff (h : Wrote groups expire db db')
    (hdistinct : groups.Pairwise fun g g' => g.uuid ≠ g'.uuid ∧ g.gidnumber ≠ g'.gidnumber) :
    GroupsKept db' groups ↔ Unmistakable db groups := by
  constructor
  · rintro ⟨hfound, hsingle⟩
    have hclear := (getGroup_ne_tooManyResults_iff db').mp hsingle
    have hnew : ∀ g ∈ groups, ofToken expire g ∈ db'.groupT.rows := by
      intro g hg
      obtain ⟨n, hgid, -⟩ := hfound g hg
      exact h.mem_of_found hg hgid
    constructor
    · intro r hr r' hr' hspared hspared'
      exact hclear r (h.mem_of_spared hr hspared) r' (h.mem_of_spared hr' hspared')
    -- the texts of a row do not depend on its expiry
    · intro r hr hspared g hg hconf
      exact hclear r (h.mem_of_spared hr hspared) _ (hnew g hg) (hspared g hg).1 hconf
    · intro g hg g' hg' huuid hconf
      exact hclear _ (hnew g hg) _ (hnew g' hg') huuid hconf
  · intro hun
    have hnew : ∀ g ∈ groups, ofToken expire g ∈ db'.groupT.rows := by
      intro g hg
      rw [h]
      exact Table.mem_foldl_replace_of_pairwise (hun.pairwise hdistinct)
        (List.mem_map_of_mem hg)
    have hclear : db'.GroupsClear := by
      intro r hr r' hr' huuid
      rcases h.cases hr with ⟨hold, hspared⟩ | ⟨g, hg, rfl⟩
      · rcases h.cases hr' with ⟨hold', hspared'⟩ | ⟨g', hg', rfl⟩
        · exact hun.cached r hold r' hold' hspared hspared' huuid
        · exact hun.mixed r hold hspared g' hg'
      · rcases h.cases hr' with ⟨hold', hspared'⟩ | ⟨g', hg', rfl⟩
        · rintro ⟨x, hx, hx'⟩
          exact hun.mixed r' hold' hspared' g hg ⟨x, hx', hx⟩
        · exact hun.own g hg g' hg' huuid
    refine ⟨?_, (getGroup_ne_tooManyResults_iff db').mpr hclear⟩
    intro g hg
    refine ⟨expire, ?_, ?_⟩
    · exact (oneRow_filter_of_mem clash_refl (db'.unambiguous_group_gid g.gidnumber)
        (hnew g hg) (beq_self_eq_true _) _).trans (oneRow_singleton g expire)
    · exact (oneRow_filter_of_mem clash_refl
        ((groupsClear_iff_unambiguous db').mp hclear g.uuid.hyphenated) (hnew g hg)
        (answersTo_iff.mpr List.mem_cons_self) _).trans (oneRow_singleton g expire)

end Write

end Database

end Himmelblau.Db

namespace Himmelblau

open Interface Db Database LockProgram

namespace Resolver

variable {P : Type} (R : Resolver P)

/-! ## 3. Caching a user token -/

theorem cacheToken_wrote {token : UserToken} {expire : ℕ} {db db' : Database}
    (h : cacheToken token expire db = .ok db') : Wrote token.groups expire db db' := by
  obtain ⟨-, t, -, rfl⟩ := cacheToken_eq_ok h
  rfl

/-- **Cached groups.**  After `set_cache_usertoken` the groups that it retained are all found, and
    no lookup of a group is ambiguous, exactly if no text finds two of them and of the cached
    groups that they do not replace. -/
theorem cached_groups_kept_iff {token token' : UserToken} {s : ResolverState P}
    (hdistinct : token.groups.Pairwise fun g g' => g.uuid ≠ g'.uuid ∧ g.gidnumber ≠ g'.gidnumber)
    (hok : ((R.setCacheUsertoken token).exec s).1 = .ok token') :
    GroupsKept ((R.setCacheUsertoken token).exec s).2.db token'.groups ↔
      Unmistakable s.db (R.tokenToCache s.nxset token).groups := by
  rw [exec_setCacheUsertoken] at hok ⊢
  cases hcache : cacheToken (R.tokenToCache s.nxset token) (s.clock s.ticks + R.timeoutSeconds)
      s.db with
  | error e =>
    rw [hcache] at hok
    cases hok
  | ok db =>
    rw [hcache] at hok
    cases hok
    exact (cacheToken_wrote hcache).groupsKept_iff (hdistinct.filter _)

end Resolver

/-! ## 4. Two groups of one name -/

def sampleGroup (name : String) (uuid : Uuid) (gid : UInt32) : GroupToken where
  name := name
  spn := name
  uuid := uuid
  gidnumber := gid

def aliceWith (groups : List GroupToken) : UserToken := { aliceToken with groups := groups }

theorem cached_groups_kept_alice :
    let token := aliceWith [sampleGroup "users" ⟨11⟩ 2001, sampleGroup "admins" ⟨12⟩ 2002]
    GroupsKept ((outageResolver.setCacheUsertoken token).exec aliceState).2.db token.groups := by
  intro token
  have hok : ((outageResolver.setCacheUsertoken token).exec aliceState).1 =
      .ok (outageResolver.tokenToCache aliceState.nxset token) := by decide +kernel
  have hgroups : (outageResolver.tokenToCache aliceState.nxset token).groups = token.groups := by
    decide +kernel
  have hdistinct : token.groups.Pairwise fun g g' =>
      g.uuid ≠ g'.uuid ∧ g.gidnumber ≠ g'.gidnumber := by decide
  rw [← hgroups]
  refine (outageResolver.cached_groups_kept_iff hdistinct hok).mpr ⟨?_, ?_, ?_⟩
  · exact nofun
  · exact nofun
  · rw [hgroups]
    unfold GroupRow.Confusable
    decide +kernel

/-- Of two groups with one display name, the first is not in the cache. -/
theorem cached_group_lost :
    let token := aliceWith [sampleGroup "users" ⟨11⟩ 2001, sampleGroup "users" ⟨12⟩ 2002]
    let r := (outageResolver.setCacheUsertoken token).exec aliceState
    r.1.toOption.map (·.groups) = some token.groups ∧
      r.2.db.getGroup (.gid 2001) = .ok none ∧
      r.2.db.getGroup (.name (Uuid.mk 11).hyphenated) = .ok none := by
  decide +kernel

end Himmelblau
