/-
  **Local groups of the tasks daemon**, mirror of `add_user_to_group`, `user_in_group`,
  `remove_user_from_group` and the `LocalGroups` task of `daemon/src/tasks_daemon.rs`.

  Whether a user has to be removed from a group is read off the text that `getent` prints.  Its
  newline stays on the last member, which is therefore never recognised.
-/
import Himmelblau.NameMapping

namespace Himmelblau.LocalGroups

open NameMapping

variable {W : Type} (members : List String)

/-! ## 1. The task -/

/-- The programs that are run: the standard output of `getent group`, if it succeeds, and what
    `gpasswd -a` and `gpasswd -d` do.  `members` is what they are about. -/
structure GroupTools (W : Type) where
  getent : (localGroup : String) → W → Option String
  gpasswdAdd : (accountId localGroup : String) → W → W
  gpasswdDelete : (accountId localGroup : String) → W → W
  members : (localGroup : String) → W → List String

namespace GroupTools

variable (T : GroupTools W)

def addUserToGroup (accountId localGroup : String) (w : W) : W :=
  T.gpasswdAdd accountId localGroup w

def userInGroup (accountId localGroup : String) (w : W) : Bool :=
  match T.getent localGroup w with
  | some stdout =>
    match (split ':' stdout)[3]? with
    | some users => (split ',' users).any fun u => u == accountId
    | none => false
  | none => false

def removeUserFromGroup (accountId localGroup : String) (w : W) : W :=
  if T.userInGroup accountId localGroup w then T.gpasswdDelete accountId localGroup w else w

end GroupTools

structure LocalGroupsConfig where
  names : NameConfig
  localGroups : List String
  localSudoGroup : String

/-- `handle_tasks` for `TaskRequest::LocalGroups(account_id, is_sudoer)`. -/
def handleLocalGroups (T : GroupTools W) (cfg : LocalGroupsConfig)
    (cache : Option MappedNameCache) (accountId : String) (isSudoer : Bool) (w : W) : W :=
  let accountId := cfg.names.mapUpnToName cache accountId
  let w := cfg.localGroups.foldl (fun w localGroup => T.addUserToGroup accountId localGroup w) w
  -- Only run sudo groups if local_groups does not contain local_sudo_group
  if !cfg.localGroups.contains cfg.localSudoGroup then
    if isSudoer then T.addUserToGroup accountId cfg.localSudoGroup w
    else T.removeUserFromGroup accountId cfg.localSudoGroup w
  else w

/-! ## 2. What the programs do -/

def groupLine (name passwd gid : String) (members : List String) : String :=
  String.ofList ([':'].intercalate [name.toList, passwd.toList, gid.toList,
    [','].intercalate (members.map String.toList) ++ ['\n']])

def Plain (text : String) : Prop := ':' ∉ text.toList ∧ ',' ∉ text.toList ∧ '\n' ∉ text.toList

instance (text : String) : Decidable (Plain text) := inferInstanceAs (Decidable (_ ∧ _))

/-- The programs do what they are for with the group `g`: `getent` prints it, `gpasswd -d`
    removes the named member, and `gpasswd -a` leaves it alone for another group. -/
structure GroupTools.Works (T : GroupTools W) (g : String) : Prop where
  getent_eq : ∀ w, ∃ name passwd gid, Plain name ∧ Plain passwd ∧ Plain gid ∧
    T.getent g w = some (groupLine name passwd gid (T.members g w))
  plain : ∀ w, ∀ m ∈ T.members g w, Plain m
  delete_eq : ∀ a w, T.members g (T.gpasswdDelete a g w) = (T.members g w).filter (· != a)
  add_other : ∀ a g' w, g' ≠ g → T.members g (T.gpasswdAdd a g' w) = T.members g w

/-! ## 3. Who is recognised -/

def lastEntry : String := members.getLast?.getD "" ++ "\n"

def entries : List String := members.dropLast ++ [lastEntry members]

theorem entries_ne_nil : entries members ≠ [] := by simp [entries]

theorem intercalate_newline : [','].intercalate (members.map String.toList) ++ ['\n'] =
      [','].intercalate ((entries members).map String.toList) := by
  induction members with
  | nil => rfl
  | cons m members ih =>
    cases members with
    | nil => simp [entries, lastEntry]
    | cons m' members =>
      have hcons : entries (m :: m' :: members) = m :: entries (m' :: members) := by
        simp [entries, lastEntry]
      rw [hcons, List.map_cons, List.intercalate_cons_of_ne_nil (by simp), List.append_assoc, ih,
        List.map_cons, List.intercalate_cons_of_ne_nil (by simp [entries_ne_nil])]

theorem notMem_entries {members : List String} {c : Char} (hc : c ≠ '\n')
    (h : ∀ m ∈ members, c ∉ m.toList) : ∀ part ∈ (entries members).map String.toList, c ∉ part := by
  intro part hpart
  obtain ⟨entry, hentry, rfl⟩ := List.mem_map.mp hpart
  rcases List.mem_append.mp hentry with hm | hm
  · exact h entry (List.dropLast_subset _ hm)
  · rw [List.mem_singleton.mp hm]
    unfold lastEntry
    cases hlast : members.getLast? with
    | none => simpa using hc
    | some m => simpa [hc] using h m (List.mem_of_getLast? hlast)

theorem split_groupLine {name passwd gid : String} {members : List String} (hname : Plain name)
    (hpasswd : Plain passwd) (hgid : Plain gid) (hplain : ∀ m ∈ members, Plain m) :
    ∃ users, (split ':' (groupLine name passwd gid members))[3]? = some users ∧
      split ',' users = entries members := by
  have hcolon := notMem_entries (c := ':') (by decide) fun m hm => (hplain m hm).1
  have hcomma := notMem_entries (c := ',') (by decide) fun m hm => (hplain m hm).2.1
  refine ⟨String.ofList ([','].intercalate ((entries members).map String.toList)), ?_, ?_⟩
  · have husers : ':' ∉ [','].intercalate ((entries members).map String.toList) := by
      intro hmem
      rcases mem_intercalate hmem with h | ⟨part, hpart, hc⟩
      · exact absurd h (by decide)
      · exact hcolon part hpart hc
    unfold groupLine
    rw [intercalate_newline, split_ofList_intercalate (by simp)]
    · rfl
    · rintro part hpart
      simp only [List.mem_cons, List.not_mem_nil, or_false] at hpart
      rcases hpart with rfl | rfl | rfl | rfl
      · exact hname.1
      · exact hpasswd.1
      · exact hgid.1
      · exact husers
  · rw [split_ofList_intercalate (by simp [entries_ne_nil]) hcomma]
    simp

variable {T : GroupTools W} {accountId g : String}

theorem userInGroup_iff (hT : T.Works g) (w : W) :
    T.userInGroup accountId g w = true ↔
      accountId ∈ (T.members g w).dropLast ∨ accountId = lastEntry (T.members g w) := by
  obtain ⟨name, passwd, gid, hname, hpasswd, hgid, hline⟩ := hT.getent_eq w
  obtain ⟨users, hfield, husers⟩ := split_groupLine hname hpasswd hgid (hT.plain w)
  have hmem : T.userInGroup accountId g w = true ↔ accountId ∈ entries (T.members g w) := by
    simp only [GroupTools.userInGroup, hline, hfield, husers, List.any_beq']
    simp
  rw [hmem, entries, List.mem_append, List.mem_singleton]

/-! ## 4. Revocation -/

theorem members_removeUserFromGroup (hT : T.Works g) (w : W) :
    T.members g (T.removeUserFromGroup accountId g w) =
      if T.userInGroup accountId g w then (T.members g w).filter (· != accountId)
      else T.members g w := by
  unfold GroupTools.removeUserFromGroup
  split
  · exact hT.delete_eq accountId w
  · rfl

theorem members_addUserToGroups (hT : T.Works g) {localGroups : List String}
    (h : g ∉ localGroups) (w : W) :
    T.members g (localGroups.foldl (fun w localGroup => T.addUserToGroup accountId localGroup w) w)
      = T.members g w := by
  induction localGroups generalizing w with
  | nil => rfl
  | cons localGroup localGroups ih =>
    obtain ⟨hne, hrest⟩ : g ≠ localGroup ∧ g ∉ localGroups := by simpa using h
    rw [List.foldl_cons, ih hrest]
    exact hT.add_other accountId localGroup w (Ne.symm hne)

theorem lastEntry_notMem (hT : T.Works g) (w : W) : lastEntry (T.members g w) ∉ T.members g w := by
  intro hmem
  refine (hT.plain w _ hmem).2.2 ?_
  simp [lastEntry]

theorem notMem_removeUserFromGroup (hT : T.Works g) (w : W) :
    accountId ∉ T.members g (T.removeUserFromGroup accountId g w) ↔
      (accountId ∈ T.members g w → accountId ∈ (T.members g w).dropLast) := by
  rw [members_removeUserFromGroup hT w]
  split
  · rename_i hin
    refine ⟨fun _ hmem => ?_, fun _ => by simp⟩
    refine ((userInGroup_iff hT w).mp hin).resolve_right ?_
    rintro rfl
    exact lastEntry_notMem hT w hmem
  · rename_i hin
    refine ⟨fun hmem h => absurd h hmem, fun h hmem => hin ?_⟩
    exact (userInGroup_iff hT w).mpr (.inl (h hmem))

/-- After `LocalGroups(account, false)` the account is not in the sudo group, and its
    membership was read rightly, if and only if it was not the last member, nor the last
    member with a newline. -/
theorem sudo_revoked_iff (cfg : LocalGroupsConfig) (hT : T.Works cfg.localSudoGroup)
    (hlocal : cfg.localSudoGroup ∉ cfg.localGroups) (cache : Option MappedNameCache)
    (account : String) (w : W) :
    let accountId := cfg.names.mapUpnToName cache account
    let members := T.members cfg.localSudoGroup w
    (accountId ∉ T.members cfg.localSudoGroup (handleLocalGroups T cfg cache account false w) ∧
      (T.userInGroup accountId cfg.localSudoGroup w = true ↔ accountId ∈ members)) ↔
    (accountId ∈ members → accountId ∈ members.dropLast) ∧ accountId ≠ lastEntry members := by
  intro accountId members
  have hhandled : accountId ∉ T.members cfg.localSudoGroup
        (handleLocalGroups T cfg cache account false w) ↔
      (accountId ∈ members → accountId ∈ members.dropLast) := by
    unfold handleLocalGroups
    simp only [List.contains_eq_mem, hlocal, decide_false, Bool.not_false, if_true,
      Bool.false_eq_true, if_false]
    rw [notMem_removeUserFromGroup hT, members_addUserToGroups hT hlocal]
  rw [hhandled, userInGroup_iff hT w]
  refine and_congr_right fun hlast => ⟨fun hiff heq => ?_, fun hne => ⟨?_, fun h => .inl (hlast h)⟩⟩
  · exact lastEntry_notMem hT w (heq ▸ hiff.mp (.inr heq))
  · rintro (h | h)
    · exact List.dropLast_subset _ h
    · exact absurd h hne

/-! `/etc/group` with one group -/

def sudoTools : GroupTools (List String) where
  getent localGroup members :=
    if localGroup = "sudo" then some (groupLine "sudo" "x" "27" (members.filter (Plain ·)))
    else none
  gpasswdAdd accountId localGroup members :=
    if localGroup = "sudo" then members ++ [accountId] else members
  gpasswdDelete accountId localGroup members :=
    if localGroup = "sudo" then members.filter (· != accountId) else members
  members localGroup members :=
    if localGroup = "sudo" then members.filter (Plain ·) else []

theorem sudoTools_works : sudoTools.Works "sudo" where
  getent_eq w := ⟨"sudo", "x", "27", by decide, by decide, by decide, rfl⟩
  plain w m hm := by simpa using (List.mem_filter.mp hm).2
  delete_eq a w := by simp [sudoTools, List.filter_filter, Bool.and_comm]
  add_other a g' w h := by simp [sudoTools, h]

def sudoConfig : LocalGroupsConfig where
  names :=
    { nameMappingScript := none
      cnNameMapping := true
      configuredDomains := ["example.com"]
      etcPasswd := ["root"]
      runScript := fun _ _ => none
      toLowercase := id }
  localGroups := ["users"]
  localSudoGroup := "sudo"

theorem sudo_revoked_first :
    "alice" ∉ sudoTools.members "sudo"
      (handleLocalGroups sudoTools sudoConfig none "alice@example.com" false ["alice", "bob"]) :=
  ((sudo_revoked_iff sudoConfig sudoTools_works (by decide) none "alice@example.com"
    ["alice", "bob"]).mpr (by decide)).1

theorem sudo_not_revoked :
    let w := handleLocalGroups sudoTools sudoConfig none "alice@example.com" false ["bob", "alice"]
    sudoTools.getent "sudo" ["bob", "alice"] = some "sudo:x:27:bob,alice\n" ∧
    "alice" ∈ sudoTools.members "sudo" w ∧
    sudoTools.userInGroup "alice" "sudo" ["bob", "alice"] = false := by
  decide

end Himmelblau.LocalGroups
