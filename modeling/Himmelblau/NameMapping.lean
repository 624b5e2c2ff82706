/-
  **Names and UPNs**, mirror of `map_name_to_upn` and `map_upn_to_name` of
  `common/src/config.rs` and of `common/src/mapping.rs`.

  A name becomes a UPN by a script or, with `cn_name_mapping`, by the first configured domain;
  a UPN becomes a name by the mappings that the script has left in a cache, or by dropping the
  first configured domain.
-/
import Himmelblau.Config

namespace Himmelblau.NameMapping

open Config

/-! ## 1. Text -/

def split (sep : Char) (text : String) : List String :=
  (text.toList.splitOn sep).map String.ofList

/-- `text.contains('@')`. -/
def looksLikeUpn (text : String) : Bool := text.toList.contains '@'

theorem mem_intercalate {sep c : Char} {parts : List (List Char)}
    (h : c ∈ [sep].intercalate parts) : c = sep ∨ ∃ part ∈ parts, c ∈ part := by
  induction parts with
  | nil => simp at h
  | cons part parts ih =>
    cases parts with
    | nil => exact .inr ⟨part, List.mem_cons_self, by simpa using h⟩
    | cons part' parts =>
      rw [List.intercalate_cons_cons, List.mem_append, List.mem_append] at h
      rcases h with (h | h) | h
      · exact .inr ⟨part, List.mem_cons_self, h⟩
      · exact .inl (List.mem_singleton.mp h)
      · rcases ih h with heq | ⟨part'', hpart, hc⟩
        · exact .inl heq
        · exact .inr ⟨part'', List.mem_cons_of_mem part hpart, hc⟩

theorem split_ofList_intercalate {sep : Char} {parts : List (List Char)} (hne : parts ≠ [])
    (hsep : ∀ part ∈ parts, sep ∉ part) :
    split sep (String.ofList ([sep].intercalate parts)) = parts.map String.ofList := by
  unfold split
  rw [String.toList_ofList, List.splitOn_intercalate sep hsep hne]

theorem splitUsername_eq_none {text : String} (h : looksLikeUpn text = false) :
    splitUsername text = none := by
  have hsplit : text.toList.splitOn '@' = [text.toList] := by
    have hone : (['@'].intercalate [text.toList]).splitOn '@' = [text.toList] :=
      List.splitOn_intercalate '@' (by simpa [looksLikeUpn] using h) (List.cons_ne_nil _ _)
    simpa using hone
  unfold splitUsername
  rw [hsplit]

theorem splitUsername_append {name domain : String} (hname : looksLikeUpn name = false)
    (hdomain : looksLikeUpn domain = false) :
    splitUsername (name ++ "@" ++ domain) = some (name, domain) := by
  have hsplit : (name ++ "@" ++ domain).toList.splitOn '@' = [name.toList, domain.toList] := by
    have hboth : (name ++ "@" ++ domain).toList =
        ['@'].intercalate [name.toList, domain.toList] := by
      simp [List.intercalate]
    simp only [looksLikeUpn, List.contains_eq_mem, decide_eq_false_iff_not] at hname hdomain
    rw [hboth, List.splitOn_intercalate '@' _ (List.cons_ne_nil _ _)]
    simpa using ⟨hname, hdomain⟩
  unfold splitUsername
  rw [hsplit]
  simp

/-! ## 2. The cache of mapped names -/

/-- The table `mapping`; only root may write it. -/
structure MappedNameCache where
  mapping : List (String × String)
  writable : Bool

namespace MappedNameCache

def insertMapping (cache : MappedNameCache) (upn mappedName : String) : MappedNameCache :=
  if !looksLikeUpn upn || upn == mappedName then cache
  else if cache.writable then
    { cache with mapping := (upn, mappedName) :: cache.mapping.filter fun row => row.1 != upn }
  else cache

def getMappedName (cache : MappedNameCache) (upn : String) : String :=
  if looksLikeUpn upn then (cache.mapping.lookup upn).getD upn else upn

theorem lookup_filter_ne {β : Type} {a upn : String} (h : a ≠ upn) (mapping : List (String × β)) :
    (mapping.filter fun row => row.1 != upn).lookup a = mapping.lookup a := by
  induction mapping with
  | nil => rfl
  | cons row mapping ih =>
    obtain ⟨key, name⟩ := row
    by_cases hkey : key = upn
    · have hne : (a == upn) = false := by simp [h]
      simp [List.lookup_cons, hkey, hne, ih]
    · simp [List.lookup_cons, hkey, ih]

theorem getMappedName_insertMapping (cache : MappedNameCache) (upn mappedName a : String) :
    (cache.insertMapping upn mappedName).getMappedName a = cache.getMappedName a ∨
      (cache.insertMapping upn mappedName).getMappedName a = mappedName := by
  unfold insertMapping
  split
  · exact .inl rfl
  · split
    · unfold getMappedName
      split
      · by_cases ha : a = upn
        · right
          simp [ha]
        · left
          have hne : (a == upn) = false := by simp [ha]
          simp only [List.lookup_cons, hne, lookup_filter_ne ha]
      · exact .inl rfl
    · exact .inl rfl

end MappedNameCache

/-! ## 3. The mappings -/

/-- The settings, and what the mappings ask the machine: the users of `/etc/passwd` and the
    output of the script, if it succeeds. -/
structure NameConfig where
  nameMappingScript : Option String
  cnNameMapping : Bool
  configuredDomains : List String
  etcPasswd : List String
  runScript : (script accountId : String) → Option String
  toLowercase : String → String

namespace NameConfig

variable (cfg : NameConfig)

/-- `cache` is the cache of mapped names, if it can be opened.  A name the script has mapped
    is remembered in it. -/
def mapNameToUpn (cache : Option MappedNameCache) (accountId : String) :
    String × Option MappedNameCache :=
  -- Make sure this account_id isn't a local user
  if cfg.etcPasswd.contains accountId then (accountId, cache)
  else
    let scripted := if looksLikeUpn accountId then none
      else cfg.nameMappingScript.bind fun script => cfg.runScript script accountId
    match scripted with
    | some upn => (upn, cache.map (·.insertMapping upn accountId))
    | none =>
      match cfg.cnNameMapping && !looksLikeUpn accountId, cfg.configuredDomains with
      | true, domain :: _ => (accountId ++ "@" ++ domain, cache)
      | _, _ => (accountId, cache)

def mapUpnToName (cache : Option MappedNameCache) (upn : String) : String :=
  match splitUsername upn with
  | some (name, domain) =>
    let primary := cfg.toLowercase (cfg.configuredDomains.head?.getD "")
    if cfg.nameMappingScript.isSome then
      match cache with
      | some cache => cache.getMappedName upn
      | none => upn
    -- Only perform cn name mapping for the primary domain
    else if cfg.cnNameMapping && primary == cfg.toLowercase domain then name
    else upn
  | none => upn

variable {cfg} {cache : Option MappedNameCache}

theorem mapUpnToName_of_name {name : String} (h : looksLikeUpn name = false) :
    cfg.mapUpnToName cache name = name := by
  unfold mapUpnToName
  rw [splitUsername_eq_none h]

/-- What a lookup of `n` adds to the cache can only make `n` the name of a UPN. -/
theorem mapUpnToName_mapNameToUpn (cfg : NameConfig) (cache : Option MappedNameCache)
    (n upn : String) :
    cfg.mapUpnToName (cfg.mapNameToUpn cache n).2 upn = cfg.mapUpnToName cache upn ∨
      (looksLikeUpn n = false ∧ cfg.mapUpnToName (cfg.mapNameToUpn cache n).2 upn = n) := by
  by_cases hsame : (cfg.mapNameToUpn cache n).2 = cache
  · rw [hsame]
    exact .inl rfl
  · -- the cache has changed: a script has mapped `n`, which is no UPN
    unfold mapNameToUpn at hsame ⊢
    split at hsame
    · exact absurd rfl hsame
    · rename_i hlocal
      rw [if_neg hlocal]
      dsimp only at hsame ⊢
      split at hsame
      · rename_i mapped hscripted
        by_cases hupn : looksLikeUpn n = true
        · rw [if_pos hupn] at hscripted
          cases hscripted
        · rw [Bool.not_eq_true] at hupn
          cases cache with
          | none => exact absurd rfl hsame
          | some cache =>
            unfold mapUpnToName
            split
            · dsimp only [Option.map_some]
              split
              · rcases cache.getMappedName_insertMapping mapped n upn with hold | hnew
                · exact .inl hold
                · exact .inr ⟨hupn, hnew⟩
              · exact .inl rfl
            · exact .inl rfl
      · exfalso
        apply hsame
        split <;> rfl

end NameConfig

end Himmelblau.NameMapping
