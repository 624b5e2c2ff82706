/-
  **The names that a script has mapped.**

  `map_name_to_upn` writes what the script answers into the table of mapped names, and
  `map_upn_to_name` reads it there.  The key is the UPN as the script has printed it, but the
  daemon asks with the UPN in lower case: a UPN with a capital letter is never found again.
-/
import Himmelblau.ServerConfig

namespace Himmelblau.RememberedNames

open Config NameMapping

/-! ## 1. The table -/

section Table

variable {cache : MappedNameCache} {a upn mappedName : String}

theorem getMappedName_insertMapping_self (hwritable : cache.writable = true)
    (hupn : looksLikeUpn upn = true) (hne : upn ≠ mappedName) :
    (cache.insertMapping upn mappedName).getMappedName upn = mappedName := by
  unfold MappedNameCache.insertMapping MappedNameCache.getMappedName
  simp [hupn, hne, hwritable]

theorem getMappedName_insertMapping_of_ne (h : a ≠ upn) :
    (cache.insertMapping upn mappedName).getMappedName a = cache.getMappedName a := by
  unfold MappedNameCache.insertMapping
  split
  · rfl
  · split
    · have hne : (a == upn) = false := by simp [h]
      unfold MappedNameCache.getMappedName
      simp only [List.lookup_cons, hne, MappedNameCache.lookup_filter_ne h]
    · rfl

theorem getMappedName_eq_iff (hupn : looksLikeUpn upn = true) :
    cache.getMappedName upn = mappedName ↔ cache.mapping.lookup upn = some mappedName ∨
      (cache.mapping.lookup upn = none ∧ upn = mappedName) := by
  unfold MappedNameCache.getMappedName
  rw [if_pos hupn]
  cases cache.mapping.lookup upn with
  | none => simp
  | some found => simp

end Table

/-! ## 2. Calls of `map_name_to_upn` -/

/-- A name that is mapped, and what the script prints for it if it is run and succeeds. -/
structure Call where
  name : String
  output : Option String

variable (cfg : NameConfig)

def answering (c : Call) : NameConfig := { cfg with runScript := fun _ _ => c.output }

def call (cache : Option MappedNameCache) (c : Call) : String × Option MappedNameCache :=
  (answering cfg c).mapNameToUpn cache c.name

def run (calls : List Call) (cache : Option MappedNameCache) : Option MappedNameCache :=
  calls.foldl (fun cache c => (call cfg cache c).2) cache

/-- The script was asked for the name and has printed the text. -/
structure Answered (c : Call) (upn : String) : Prop where
  notLocal : c.name ∉ cfg.etcPasswd
  plain : looksLikeUpn c.name = false
  script : cfg.nameMappingScript.isSome = true
  output : c.output = some upn

def upnOf (c : Call) : String := (call cfg none c).1

variable {cfg} {cache : Option MappedNameCache} {c : Call}

theorem call_cases (cfg : NameConfig) (cache : Option MappedNameCache) (c : Call) :
    (∃ upn, Answered cfg c upn ∧
        call cfg cache c = (upn, cache.map (·.insertMapping upn c.name))) ∨
      (∀ upn, ¬Answered cfg c upn) ∧ (call cfg cache c).2 = cache := by
  unfold call NameConfig.mapNameToUpn
  by_cases hlocal : c.name ∈ cfg.etcPasswd
  · right
    refine ⟨fun upn h => h.notLocal hlocal, ?_⟩
    rw [if_pos (by simpa [answering] using hlocal)]
  · rw [if_neg (by simpa [answering] using hlocal)]
    dsimp only
    cases hscripted : (if looksLikeUpn c.name = true then none else
        (answering cfg c).nameMappingScript.bind
          fun script => (answering cfg c).runScript script c.name) with
    | some upn =>
      left
      by_cases hplain : looksLikeUpn c.name = true
      · rw [if_pos hplain] at hscripted
        cases hscripted
      · rw [if_neg hplain] at hscripted
        obtain ⟨script, hscript, houtput⟩ := Option.bind_eq_some_iff.mp hscripted
        exact ⟨upn, ⟨hlocal, Bool.not_eq_true _ ▸ hplain, Option.isSome_of_mem hscript, houtput⟩,
          rfl⟩
    | none =>
      right
      refine ⟨?_, ?_⟩
      · intro upn h
        obtain ⟨script, hscript⟩ := Option.isSome_iff_exists.mp h.script
        rw [if_neg (by simp [h.plain])] at hscripted
        have hanswer := Option.bind_eq_none_iff.mp hscripted script hscript
        exact nomatch hanswer.symm.trans h.output
      · dsimp only
        split <;> rfl

variable {upn : String}

theorem Answered.upnOf_eq (h : Answered cfg c upn) : upnOf cfg c = upn := by
  rcases call_cases cfg none c with ⟨upn', h', heq⟩ | ⟨hnot, -⟩
  · unfold upnOf
    rw [heq]
    exact Option.some_inj.mp (h'.output.symm.trans h.output)
  · exact absurd h (hnot upn)

/-! ## 3. What is remembered -/

variable (cfg c) in
/-- After the call the lower-cased UPN has the name, until another name is mapped to the UPN. -/
def Remembered (cache : Option MappedNameCache) : Prop :=
  ∀ later : List Call,
    (∀ c' ∈ later, c'.name ≠ c.name →
      cfg.toLowercase (upnOf cfg c') ≠ cfg.toLowercase (upnOf cfg c)) →
    cfg.mapUpnToName (run cfg later (call cfg cache c).2) (cfg.toLowercase (upnOf cfg c)) = c.name

variable (cfg c) in
/-- The script has printed the UPN in lower case, or the table had the name for the lower-cased
    UPN before, or the name is its own UPN. -/
def Recallable (cache : MappedNameCache) : Prop :=
  let key := cfg.toLowercase (upnOf cfg c)
  if (splitUsername key).isSome then
    Answered cfg c key ∨ cache.mapping.lookup key = some c.name ∨
      (cache.mapping.lookup key = none ∧ key = c.name)
  else key = c.name

theorem mapUpnToName_of_script (hscript : cfg.nameMappingScript.isSome = true)
    (hsplit : (splitUsername upn).isSome = true) (cache : MappedNameCache) :
    cfg.mapUpnToName (some cache) upn = cache.getMappedName upn := by
  obtain ⟨parts, hparts⟩ := Option.isSome_iff_exists.mp hsplit
  unfold NameConfig.mapUpnToName
  rw [hparts]
  simp [hscript]

theorem mapUpnToName_of_no_split (hsplit : ¬(splitUsername upn).isSome = true) :
    cfg.mapUpnToName cache upn = upn := by
  unfold NameConfig.mapUpnToName
  rw [Option.not_isSome_iff_eq_none.mp hsplit]

theorem looksLikeUpn_of_split (hsplit : (splitUsername upn).isSome = true) :
    looksLikeUpn upn = true := by
  by_contra hplain
  rw [Bool.not_eq_true] at hplain
  rw [splitUsername_eq_none hplain] at hsplit
  cases hsplit

theorem mapUpnToName_call_of_ne (h : upnOf cfg c ≠ upn) :
    cfg.mapUpnToName (call cfg cache c).2 upn = cfg.mapUpnToName cache upn := by
  rcases call_cases cfg cache c with ⟨upn', hanswered, heq⟩ | ⟨-, heq⟩
  · rw [heq]
    have hne : upn ≠ upn' := by
      rintro rfl
      exact h hanswered.upnOf_eq
    cases cache with
    | none => rfl
    | some cache =>
      unfold NameConfig.mapUpnToName
      simp only [Option.map_some, getMappedName_insertMapping_of_ne hne]
  · rw [heq]

/-- No call for the same name, or for another UPN, takes the name from a UPN. -/
theorem mapUpnToName_run {name : String} {later : List Call}
    (hlater : ∀ c ∈ later, c.name ≠ name → upnOf cfg c ≠ upn)
    (h : cfg.mapUpnToName cache upn = name) :
    cfg.mapUpnToName (run cfg later cache) upn = name := by
  induction later generalizing cache with
  | nil => exact h
  | cons c later ih =>
    obtain ⟨hc, hrest⟩ := List.forall_mem_cons.mp hlater
    refine ih hrest ?_
    by_cases hname : c.name = name
    · rcases (answering cfg c).mapUpnToName_mapNameToUpn cache c.name upn with hold | ⟨-, hnew⟩
      · exact hold.trans h
      · exact hnew.trans hname
    · rw [mapUpnToName_call_of_ne (hc hname)]
      exact h

theorem mapUpnToName_call_iff (hscript : cfg.nameMappingScript.isSome = true)
    {cache : MappedNameCache} (hwritable : cache.writable = true) :
    cfg.mapUpnToName (call cfg (some cache) c).2 (cfg.toLowercase (upnOf cfg c)) = c.name ↔
      Recallable cfg c cache := by
  unfold Recallable
  dsimp only
  generalize hkey : cfg.toLowercase (upnOf cfg c) = key
  split
  · rename_i hsplit
    have hupn := looksLikeUpn_of_split hsplit
    by_cases hanswer : Answered cfg c key
    · rcases call_cases cfg (some cache) c with ⟨upn, h, heq⟩ | ⟨hnot, -⟩
      · obtain rfl : upn = key := h.upnOf_eq.symm.trans hanswer.upnOf_eq
        have hne : upn ≠ c.name := by
          rintro rfl
          exact nomatch h.plain.symm.trans hupn
        rw [heq, Option.map_some, mapUpnToName_of_script hscript hsplit,
          getMappedName_insertMapping_self hwritable hupn hne]
        exact iff_of_true rfl (.inl hanswer)
      · exact absurd hanswer (hnot key)
    · have hkept : cfg.mapUpnToName (call cfg (some cache) c).2 key = cache.getMappedName key := by
        rw [← mapUpnToName_of_script hscript hsplit]
        by_cases hu : upnOf cfg c = key
        · rcases call_cases cfg (some cache) c with ⟨upn, h, -⟩ | ⟨-, heq⟩
          · exact absurd (h.upnOf_eq.symm.trans hu ▸ h) hanswer
          · rw [heq]
        · exact mapUpnToName_call_of_ne hu
      rw [hkept, getMappedName_eq_iff hupn]
      exact ⟨.inr, fun h => h.resolve_left hanswer⟩
  · rename_i hsplit
    rw [mapUpnToName_of_no_split hsplit]

/-- For every table, every name and every output of the script. -/
theorem remembered_iff_recallable (hscript : cfg.nameMappingScript.isSome = true)
    (hlower : ∀ text, cfg.toLowercase (cfg.toLowercase text) = cfg.toLowercase text)
    {cache : MappedNameCache} (hwritable : cache.writable = true) :
    Remembered cfg c (some cache) ↔ Recallable cfg c cache := by
  rw [← mapUpnToName_call_iff hscript hwritable]
  constructor
  · intro h
    exact h [] nofun
  · intro h later hlater
    refine mapUpnToName_run ?_ h
    intro c' hc' hname heq
    exact hlater c' hc' hname (by rw [heq, hlower])

def scriptNames : NameConfig where
  nameMappingScript := some "/usr/bin/map-name"
  cnNameMapping := false
  configuredDomains := ["example.com"]
  etcPasswd := ["root"]
  runScript _ _ := none
  toLowercase := ServerConfig.asciiLower

/-- The script prints `Alice@example.com` for `alice`, and `alice@example.com` has no name. -/
theorem alice_forgotten :
    let c : Call := ⟨"alice", some "Alice@example.com"⟩
    let after := call scriptNames (some ⟨[], true⟩) c
    c.name ∉ scriptNames.etcPasswd ∧ after.1 = "Alice@example.com" ∧
      scriptNames.toLowercase after.1 = "alice@example.com" ∧
      scriptNames.mapUpnToName after.2 "alice@example.com" = "alice@example.com" ∧
      "alice@example.com" ≠ c.name := by
  decide +kernel

/-- The script answers in lower case, for a UPN that was `bob`'s before. -/
theorem alice_remembered :
    Remembered scriptNames ⟨"alice", some "alice@example.com"⟩
      (some ⟨[("alice@example.com", "bob")], true⟩) := by
  have hanswered :
      Answered scriptNames ⟨"alice", some "alice@example.com"⟩ "alice@example.com" :=
    ⟨by decide, by decide, rfl, rfl⟩
  refine (remembered_iff_recallable rfl ?_ rfl).mpr ?_
  · intro text
    simp only [scriptNames, ServerConfig.asciiLower, String.toList_ofList, List.map_map,
      Function.comp_def, ServerConfig.toLower_toLower]
  · have hkey : scriptNames.toLowercase "alice@example.com" = "alice@example.com" := by
      decide +kernel
    have hsplit : (splitUsername "alice@example.com").isSome = true := by decide +kernel
    unfold Recallable
    rw [hanswered.upnOf_eq, hkey]
    dsimp only
    rw [if_pos hsplit]
    exact .inl hanswered

end Himmelblau.RememberedNames
