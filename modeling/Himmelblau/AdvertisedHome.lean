/-
  **The home directory a user is told of and the one that is made**: the resolver computes the path
  that NSS answers (`token_abs_homedirectory`), the tasks daemon computes the paths of the directory
  and of its alias (`create_home_directory`), from the same configuration but not from the same
  parts of it.
-/
import Himmelblau.ResolverAuth
import Himmelblau.ServerConfig
import Himmelblau.TaskDaemon

namespace Himmelblau

open Interface FunctionBody HomeDirectory TaskDaemon Config ServerConfig List

variable {I Q F : Type}

/-! ## 1. The configuration -/

namespace ServerConfig.IniParser

variable (P : IniParser I) (config : I)

def strToHomeAttr (attrib : String) : HomeAttr :=
  if P.toLowercase attrib = "uuid" then .uuid
  else if P.toLowercase attrib = "spn" then .spn
  else if P.toLowercase attrib = "cn" then .cn
  else .uuid

/-- The option of the domain's section, or else the one of the global section. -/
def domainOption (domain : Option String) (key : String) : Option String :=
  match domain with
  | some domain =>
    match P.get config domain key with
    | some val => some val
    | none => P.get config "global" key
  | none => P.get config "global" key

def getHomePrefix (domain : Option String) : String :=
  (P.domainOption config domain "home_prefix").getD "/home/"

def getHomeAttr (domain : Option String) : HomeAttr :=
  match P.domainOption config domain "home_attr" with
  | some val => P.strToHomeAttr val
  | none => .uuid

def getHomeAlias (domain : Option String) : Option HomeAttr :=
  match P.domainOption config domain "home_alias" with
  | some val => some (P.strToHomeAttr val)
  | none => some .spn

end ServerConfig.IniParser

/-- The resolver that `himmelblaud` starts with, whatever else is configured. -/
def Resolver.withHome (R : Resolver Q) (P : IniParser I) (config : I) : Resolver Q :=
  { R with
    homePrefix := P.getHomePrefix config none
    homeAttr := P.getHomeAttr config none
    homeAlias := P.getHomeAlias config none }

def TaskDaemon.TasksConfig.withHome (cfg : TasksConfig) (P : IniParser I) (config : I) :
    TasksConfig :=
  { cfg with getHomePrefix := P.getHomePrefix config }

def Resolver.homeInfoOf (R : Resolver Q) (tok : UserToken) : HomeDirectoryInfo where
  uid := tok.gidnumber
  gid := tok.realGidnumber.getD tok.gidnumber
  name := R.tokenHomedirectoryAttr tok
  aliases := (R.tokenHomedirectoryAlias tok).toList

theorem Resolver.homeInfoOf_aliases (R : Resolver Q) (tok : UserToken) :
    (R.homeInfoOf tok).aliases = (R.tokenHomedirectoryAlias tok).toList := rfl

namespace HomeDirectory

/-! ## 2. Paths below a prefix -/

/-- The path is the one of an entry of the directory: it ends in the name of the entry, so that the
    system does not follow a link there. -/
def Entry (base path : String) : Prop :=
  parent path = some (components base) ∧ ∃ name, path = base ++ sanitize name

def EndsInSlash (path : String) : Prop := path.toList.getLast? = some '/'

section Paths

variable {base name : String}

theorem front_append {parts : List (List Char)} (hne : parts ≠ []) (last last' : List Char) :
    front (parts ++ [last]) = front (parts ++ [last']) := by
  cases parts with
  | nil => exact absurd rfl hne
  | cons first rest =>
    unfold front
    cases rest <;> grind

theorem components_append (hbase : EndsInSlash base) (hname : '/' ∉ name.toList) :
    components (base ++ name) = components base ++ (component name.toList).toList := by
  obtain ⟨p, hp⟩ := getLast?_eq_some_iff.mp hbase
  have hparts : ∀ last : List Char, '/' ∉ last →
      (p ++ '/' :: last).splitOn '/' = p.splitOn '/' ++ [last] := by
    intro last hlast
    rw [splitOn_append_cons_self, splitOn_eq_singleton hlast]
  have hlast : [name.toList].filterMap component = (component name.toList).toList := by
    cases h : component name.toList <;> simp [h]
  unfold components
  dsimp only
  rw [String.toList_append, hp, append_assoc, singleton_append, hparts _ hname,
    hparts [] not_mem_nil, front_append (splitOn_ne_nil _ _) name.toList [],
    filterMap_append, hlast, filterMap_append]
  simp [component]

theorem component_injective {a b : List Char} (ha : component a ≠ none)
    (h : component a = component b) : a = b := by
  unfold component at h ha
  grind [String.toList_ofList]

theorem slash_notMem_sanitize : '/' ∉ (sanitize name).toList := by
  unfold sanitize
  rw [String.toList_ofList]
  intro h
  simpa using (mem_filter.mp h).2

theorem Entry.component_ne (hbase : EndsInSlash base) (h : Entry base (base ++ sanitize name)) :
    component (sanitize name).toList ≠ none := by
  intro hnone
  have hparent := h.1
  unfold parent at hparent
  rw [components_append hbase slash_notMem_sanitize, hnone, Option.toList_none,
    append_nil] at hparent
  split at hparent
  · cases hparent
  · cases hparent
  · next hlast =>
    have hshort := congrArg length (Option.some.inj hparent)
    have hpos := length_pos_of_mem (mem_of_getLast? hlast)
    rw [length_dropLast] at hshort
    omega

theorem components_eq_iff {base' v n : String} (hbase : EndsInSlash base)
    (hbase' : EndsInSlash base') (hslash : '/' ∉ v.toList) (hv : component v.toList ≠ none)
    (hn : Entry base' (base' ++ sanitize n)) :
    components (base ++ v) = components (base' ++ sanitize n) ↔
      components base = components base' ∧ v = sanitize n := by
  obtain ⟨c, hc⟩ := Option.ne_none_iff_exists'.mp hv
  obtain ⟨c', hc'⟩ := Option.ne_none_iff_exists'.mp (hn.component_ne hbase')
  rw [components_append hbase hslash, components_append hbase' slash_notMem_sanitize, hc, hc']
  constructor
  · intro h
    obtain ⟨hsame, hlast⟩ := append_inj' h rfl
    obtain rfl : c = c' := by simpa using hlast
    exact ⟨hsame, String.toList_inj.mp (component_injective hv (hc.trans hc'.symm))⟩
  · rintro ⟨hsame, rfl⟩
    rw [hsame, ← hc, hc']

def PlainName (name : String) : Prop := '/' ∉ name.toList ∧ '\\' ∉ name.toList

theorem PlainName.toList_sanitize (h : PlainName name) :
    (sanitize name).toList = name.toList.dropWhile (· == '.') := by
  obtain ⟨hslash, hback⟩ := h
  unfold sanitize
  rw [String.toList_ofList]
  refine filter_eq_self.mpr fun c hc => ?_
  have hmem := (dropWhile_sublist (· == '.')).subset hc
  have h1 : c ≠ '/' := fun heq => hslash (heq ▸ hmem)
  have h2 : c ≠ '\\' := fun heq => hback (heq ▸ hmem)
  simp [h1, h2]

theorem PlainName.undotted (h : PlainName name) : (sanitize name).toList.head? ≠ some '.' := by
  rw [h.toList_sanitize]
  intro hdot
  have := head?_dropWhile_not (· == '.') name.toList
  rw [hdot] at this
  simp at this

theorem PlainName.component_ne (h : PlainName name)
    (hne : component (sanitize name).toList ≠ none) : component name.toList ≠ none := by
  rw [h.toList_sanitize] at hne
  intro hnone
  unfold component at hnone
  split at hnone <;> simp_all [component]

theorem PlainName.sanitize_eq_iff (h : PlainName name) :
    sanitize name = name ↔ name.toList.head? ≠ some '.' := by
  constructor
  · intro heq
    rw [← heq]
    exact h.undotted
  · intro hdot
    rw [← String.toList_inj, h.toList_sanitize]
    cases hchars : name.toList with
    | nil => rfl
    | cons c rest =>
      rw [hchars] at hdot
      exact dropWhile_cons_of_neg (by simpa using hdot)

end Paths

/-! ## 3. What is asked of the file system -/

def FileTools.Occupied (T : FileTools F) (path : String) (f : F) : Prop :=
  T.isSymlink path f = .ok false

def FileTools.PlainDir (T : FileTools F) (path : String) (f : F) : Prop :=
  T.isDir path f = true ∧ T.Occupied path f

def Links (T : FileTools F) (readLink : String → F → Option String) (path name : String) (f : F) :
    Prop :=
  T.isSymlink path f = .ok true ∧ readLink path f = some name

/-- Nothing that the task looks at has changed. -/
structure Alike (T : FileTools F) (Secluded : String → F → Prop) (f f' : F) : Prop where
  pathExists : ∀ path, T.pathExists path f' = T.pathExists path f
  isDir : ∀ path, T.isDir path f' = T.isDir path f
  isSymlink : ∀ path, T.isSymlink path f' = T.isSymlink path f
  secluded : ∀ path, Secluded path f → Secluded path f'

/-- There is a directory of its own, and nothing has been put beside it. -/
structure Furnished (T : FileTools F) (Secluded : String → F → Prop) (dir : String) (f f' : F) :
    Prop where
  isDir : T.isDir dir f' = true
  secluded : Secluded dir f'
  beside : ∀ base path, Entry base path → Entry base dir → components path ≠ components dir →
    (T.Occupied path f' ↔ T.Occupied path f)

def SparesDirs (T : FileTools F) (path : String) (f f' : F) : Prop :=
  ∀ base dir, Entry base dir → Entry base path → components dir ≠ components path →
    (T.PlainDir dir f' ↔ T.PlainDir dir f)

/-- The file system, where `Secluded` says of a directory that it is no link itself and that no link
    below it leads out of it, and `readLink` where a link leads.  No link on the way to a directory
    leads through one of its entries. -/
structure FileTools.Lawful (T : FileTools F) (Secluded : String → F → Prop)
    (readLink : String → F → Option String) : Prop where
  label_alike : ∀ l f, Alike T Secluded f (T.label l f).2
  lchown_alike : ∀ path uid gid f, Alike T Secluded f (T.lchown path uid gid f).2
  createDirAll_new : ∀ path umask f f', parent path ≠ none → T.pathExists path f = false →
    T.createDirAll path umask f = (.ok (), f') → Furnished T Secluded path f f'
  createDirAll_below : ∀ dir skel rel isDir f0 f f', (rel, isDir) ∈ T.walkDir skel f0 →
    T.isDir dir f = true → Secluded dir f → T.createDirAll (join dir rel) none f = (.ok (), f') →
    Furnished T Secluded dir f f'
  copy_below : ∀ dir skel rel isDir source f0 f f', (rel, isDir) ∈ T.walkDir skel f0 →
    T.isDir dir f = true → Secluded dir f → T.copy source (join dir rel) f = (.ok (), f') →
    Furnished T Secluded dir f f'
  secluded_occupied : ∀ path f, Secluded path f → T.Occupied path f
  occupied_exists : ∀ path f, T.Occupied path f → T.pathExists path f = true
  removeFile_spares : ∀ path f f', T.removeFile path f = (.ok (), f') → SparesDirs T path f f'
  symlink_made : ∀ target link f f', T.symlink target link f = (.ok (), f') →
    T.isSymlink link f' = .ok true ∧ readLink link f' = some target ∧ SparesDirs T link f f'

section Laws

variable {T : FileTools F} {Secluded : String → F → Prop} {f f' f'' : F} {dir : String}

theorem Alike.refl (f : F) : Alike T Secluded f f :=
  ⟨fun _ => rfl, fun _ => rfl, fun _ => rfl, fun _ h => h⟩

theorem Alike.trans (h : Alike T Secluded f f') (h' : Alike T Secluded f' f'') :
    Alike T Secluded f f'' where
  pathExists path := (h'.pathExists path).trans (h.pathExists path)
  isDir path := (h'.isDir path).trans (h.isDir path)
  isSymlink path := (h'.isSymlink path).trans (h.isSymlink path)
  secluded path hpath := h'.secluded path (h.secluded path hpath)

variable {path : String}

theorem Alike.occupied_iff (h : Alike T Secluded f f') :
    T.Occupied path f' ↔ T.Occupied path f := by
  unfold FileTools.Occupied
  rw [h.isSymlink path]

theorem Alike.plainDir_iff (h : Alike T Secluded f f') :
    T.PlainDir path f' ↔ T.PlainDir path f := by
  unfold FileTools.PlainDir
  rw [h.isDir path, h.occupied_iff]

theorem Alike.furnished (h : Alike T Secluded f f') (h' : Furnished T Secluded dir f' f'') :
    Furnished T Secluded dir f f'' where
  isDir := h'.isDir
  secluded := h'.secluded
  beside base path hpath hdir hne := (h'.beside base path hpath hdir hne).trans h.occupied_iff

theorem Furnished.alike (h : Furnished T Secluded dir f f') (h' : Alike T Secluded f' f'') :
    Furnished T Secluded dir f f'' where
  isDir := (h'.isDir dir).trans h.isDir
  secluded := h'.secluded dir h.secluded
  beside base path hpath hdir hne := h'.occupied_iff.trans (h.beside base path hpath hdir hne)

theorem Furnished.trans (h : Furnished T Secluded dir f f') (h' : Furnished T Secluded dir f' f'') :
    Furnished T Secluded dir f f'' where
  isDir := h'.isDir
  secluded := h'.secluded
  beside base path hpath hdir hne :=
    (h'.beside base path hpath hdir hne).trans (h.beside base path hpath hdir hne)

end Laws

/-! ## 4. The directory and its alias -/

def Failing (r : Except String Unit) (_ : F) : Prop := r ≠ .ok ()

theorem ensures_of_run_ok {p : Job F (Except String Unit)} {f : F} {X : F → Prop}
    (h : p.Ensures f (fun _ f' => X f') Failing) (hok : (p.run f).1 = .ok ()) :
    X (p.run f).2 := by
  have hrun : p.Ensures f (fun r f' => r = .ok () → X f') fun r f' => r = .ok () → X f' :=
    h.mono (fun _ _ hX _ => hX) fun _ _ hne heq => absurd heq hne
  exact hrun.run hok

section Stages

open Body

variable {α : Type} {f : F} {Q : α → F → Prop}

theorem ensures_attempt {call : F → Except String α × F}
    (h : ∀ a f', call f = (.ok a, f') → Q a f') : (attempt call).Ensures f Q Failing := by
  unfold attempt
  rw [ensures_bind, ensures_call]
  rcases hcall : call f with ⟨_ | a, f'⟩
  · exact nofun
  · exact h a f' hcall

variable {path : String}

theorem ensures_assertWithin {homePrefix outside corrupt : String} {Q : Unit → F → Prop}
    (h : parent path = some (components homePrefix) → Q () f) :
    (assertWithin homePrefix path outside corrupt).Ensures f Q Failing := by
  unfold assertWithin
  split
  · next pp hpp =>
    split
    · next heq => exact h (hpp.trans (congrArg some heq))
    · exact nofun
  · exact nofun

variable {T : FileTools F} {Secluded : String → F → Prop}
  {readLink : String → F → Option String} (laws : T.Lawful Secluded readLink)
  {info : HomeDirectoryInfo} {homePrefix : String} {useEtcSkel useSelinux : Bool}

include laws

theorem ensures_label (l : Labeling) :
    (label T useSelinux l).Ensures f (fun _ f' => Alike T Secluded f f') Failing := by
  unfold label
  split
  · refine ensures_attempt fun _ f' hcall => ?_
    have halike := laws.label_alike l f
    rw [hcall] at halike
    exact halike
  · exact Alike.refl f

theorem ensures_lchown (uid gid : UInt32) :
    (attempt (T.lchown path uid gid)).Ensures f (fun _ f' => Alike T Secluded f f') Failing := by
  refine ensures_attempt fun _ f' hcall => ?_
  have halike := laws.lchown_alike path uid gid f
  rw [hcall] at halike
  exact halike

theorem ensures_copySkel {hdPath : String} {f0 : F} (entries : List (String × Bool))
    (hwalk : ∀ e ∈ entries, e ∈ T.walkDir "/etc/skel/" f0) {f1 : F}
    (hfirst : Furnished T Secluded hdPath f f1) :
    (copySkel T info useSelinux hdPath entries).Ensures f1
      (fun _ f' => Furnished T Secluded hdPath f f') Failing := by
  induction entries generalizing f1 with
  | nil => exact hfirst
  | cons e entries ih =>
    obtain ⟨rel, isDir⟩ := e
    have hmem : (rel, isDir) ∈ T.walkDir "/etc/skel/" f0 := hwalk _ (mem_cons_self ..)
    unfold copySkel
    refine (ensures_label laws _).bind fun _ f2 h2 => ?_
    have hlabelled := hfirst.alike h2
    rw [ensures_bind]
    refine ensures_attempt fun _ f3 hcall => ?_
    have h3 : Furnished T Secluded hdPath f f3 := by
      cases isDir with
      | true =>
        exact hlabelled.trans
          (laws.createDirAll_below _ _ _ _ _ _ _ hmem hlabelled.isDir hlabelled.secluded hcall)
      | false =>
        exact hlabelled.trans
          (laws.copy_below _ _ _ _ _ _ _ _ hmem hlabelled.isDir hlabelled.secluded hcall)
    refine (ensures_lchown laws _ _).bind fun _ f4 h4 => ?_
    refine (ensures_label laws _).bind fun _ f5 h5 => ?_
    exact ih (fun e he => hwalk e (mem_cons_of_mem _ he)) ((h3.alike h4).alike h5)

theorem ensures_createMissing {hdPath : String} (hpath : parent hdPath ≠ none)
    (hmissing : T.pathExists hdPath f = false) :
    (createMissing T info useEtcSkel useSelinux hdPath).Ensures f
      (fun _ f' => Furnished T Secluded hdPath f f') Failing := by
  unfold createMissing
  refine (ensures_label laws _).bind fun _ f1 h1 => ?_
  rw [ensures_bind]
  refine ensures_attempt fun _ f2 hcall => ?_
  have hmissing' : T.pathExists hdPath f1 = false := by rw [h1.pathExists, hmissing]
  have h2 := h1.furnished (laws.createDirAll_new _ _ _ _ hpath hmissing' hcall)
  refine (ensures_lchown laws _ _).bind fun _ f3 h3 => ?_
  rw [ensures_bind, ensures_get]
  split
  · rw [ensures_bind, ensures_get]
    exact ensures_copySkel laws _ (fun _ he => he) (h2.alike h3)
  · exact h2.alike h3

omit laws

def makeHome (T : FileTools F) (info : HomeDirectoryInfo) (homePrefix : String)
    (useEtcSkel useSelinux : Bool) : Job F Unit := do
  let f ← Body.get
  if !T.pathExists homePrefix f || !T.isDir homePrefix f then
    Body.leave (.error "Invalid home_prefix from configuration")
  let hdPath := homePrefix ++ sanitize info.name
  assertWithin homePrefix hdPath "Invalid home directory name - not within home_prefix"
    "Invalid/Corrupt home directory path - no prefix found"
  label T useSelinux (.new info.uid homePrefix)
  if !T.pathExists hdPath (← Body.get) then createMissing T info useEtcSkel useSelinux hdPath
  label T useSelinux .defaultContext

theorem createHomeDirectory_eq :
    createHomeDirectory T info homePrefix useEtcSkel useSelinux = Body.run do
      makeHome T info homePrefix useEtcSkel useSelinux
      info.aliases.forM (linkAlias T homePrefix (sanitize info.name))
      return .ok () := by
  unfold createHomeDirectory makeHome
  rw [bind_assoc]
  refine congrArg Body.run (bind_congr fun f => ?_)
  split
  · rfl
  · simp only [bind_assoc]
    refine bind_congr fun _ => bind_congr fun _ => bind_congr fun f' => ?_
    split
    · rw [bind_assoc]
    · rfl

include laws

/-- The directory is there exactly if there was nothing or a directory at its path, and it is in
    nobody's way. -/
theorem ensures_makeHome {home : String} (hpath : home = homePrefix ++ sanitize info.name) :
    (makeHome T info homePrefix useEtcSkel useSelinux).Ensures f
      (fun _ g => Entry homePrefix home ∧
        (T.PlainDir home g ↔ (T.pathExists home f = true → T.PlainDir home f)) ∧
        ∀ path, Entry homePrefix path → components path ≠ components home →
          (T.Occupied path g ↔ T.Occupied path f)) Failing := by
  subst hpath
  unfold makeHome
  rw [ensures_bind, ensures_get]
  split
  · exact nofun
  rw [ensures_bind]
  refine ensures_assertWithin fun hparent => ?_
  have hentry : Entry homePrefix (homePrefix ++ sanitize info.name) := ⟨hparent, info.name, rfl⟩
  refine (ensures_label laws _).bind fun _ f1 h1 => ?_
  rw [ensures_bind, ensures_get, h1.pathExists]
  cases hexists : T.pathExists (homePrefix ++ sanitize info.name) f with
  | true =>
    refine (ensures_label laws _).mono (fun _ g h2 => ⟨hentry, ?_, ?_⟩) fun _ _ h => h
    · rw [(h1.trans h2).plainDir_iff]
      exact ⟨fun hdir _ => hdir, fun hdir => hdir rfl⟩
    · exact fun path _ _ => (h1.trans h2).occupied_iff
  | false =>
    have hmissing : T.pathExists (homePrefix ++ sanitize info.name) f1 = false := by
      rw [h1.pathExists, hexists]
    refine (ensures_createMissing laws (by rw [hparent]; nofun) hmissing).bind fun _ f2 h2 => ?_
    refine (ensures_label laws _).mono (fun _ g h3 => ⟨hentry, ?_⟩) fun _ _ h => h
    have hmade := (h1.furnished h2).alike h3
    have hdir := laws.secluded_occupied _ _ hmade.secluded
    exact ⟨⟨fun _ => nofun, fun _ => ⟨hmade.isDir, hdir⟩⟩,
      fun path hpath => hmade.beside homePrefix path hpath hentry⟩

variable {home linkName name : String}

/-- A link that is made is none of the directories. -/
theorem ensures_symlink (hentry : Entry homePrefix home) (hlink : Entry homePrefix path)
    (hfree : components home = components path → home = path) {f0 : F}
    (hspared : components home ≠ components path → (T.PlainDir home f ↔ T.PlainDir home f0))
    (hplain : home = path → ¬ T.PlainDir home f0) :
    (attempt (T.symlink name path)).Ensures f
      (fun _ f' => (T.PlainDir home f' ↔ T.PlainDir home f0) ∧ Links T readLink path name f')
      Failing := by
  refine ensures_attempt fun _ f' hcall => ?_
  obtain ⟨hmade, htarget, hspares⟩ := laws.symlink_made _ _ _ _ hcall
  refine ⟨?_, hmade, htarget⟩
  by_cases hsame : components home = components path
  · obtain rfl := hfree hsame
    refine iff_of_false (fun hdir => ?_) (hplain rfl)
    cases hmade.symm.trans hdir.2
  · exact (hspares _ home hentry hlink hsame).trans (hspared hsame)

/-- The alias is a link to the directory exactly if nothing but a link was in its place. -/
theorem ensures_linkAlias (hslash : EndsInSlash homePrefix) {own : String}
    (hhome : home = homePrefix ++ sanitize own) (hentry : Entry homePrefix home) :
    (linkAlias T homePrefix name linkName).Ensures f
      (fun _ f' => Entry homePrefix (homePrefix ++ sanitize linkName) ∧
        (T.PlainDir home f' ↔ T.PlainDir home f) ∧
        (Links T readLink (homePrefix ++ sanitize linkName) name f' ↔
          ¬ T.Occupied (homePrefix ++ sanitize linkName) f)) Failing := by
  unfold linkAlias
  rw [ensures_bind]
  refine ensures_assertWithin fun hwithin => ?_
  have halias : Entry homePrefix (homePrefix ++ sanitize linkName) := ⟨hwithin, linkName, rfl⟩
  have hsame : components home = components (homePrefix ++ sanitize linkName) →
      home = homePrefix ++ sanitize linkName := by
    subst hhome
    intro heq
    rw [((components_eq_iff hslash hslash slash_notMem_sanitize (hentry.component_ne hslash)
      halias).mp heq).2]
  have hmake : ¬ T.Occupied (homePrefix ++ sanitize linkName) f → ∀ f1,
      (components home ≠ components (homePrefix ++ sanitize linkName) →
        (T.PlainDir home f1 ↔ T.PlainDir home f)) →
      (attempt (T.symlink name (homePrefix ++ sanitize linkName))).Ensures f1
        (fun _ f' => Entry homePrefix (homePrefix ++ sanitize linkName) ∧
          (T.PlainDir home f' ↔ T.PlainDir home f) ∧
          (Links T readLink (homePrefix ++ sanitize linkName) name f' ↔
            ¬ T.Occupied (homePrefix ++ sanitize linkName) f)) Failing := by
    intro hfree f1 hspared
    refine (ensures_symlink laws hentry halias hsame hspared ?_).mono
      (fun _ _ h => ⟨halias, h.1, iff_of_true h.2 hfree⟩) fun _ _ h => h
    rintro rfl hdir
    exact hfree hdir.2
  rw [ensures_bind, ensures_get]
  split
  · rw [ensures_bind]
    refine ensures_attempt fun isLink f1 hcall => ?_
    obtain ⟨hkind, rfl⟩ := Prod.ext_iff.mp hcall
    cases isLink with
    | true =>
      have hfree : ¬ T.Occupied (homePrefix ++ sanitize linkName) f := by
        intro hoccupied
        cases hkind.symm.trans hoccupied
      change (attempt (T.removeFile _) >>= fun _ => attempt (T.symlink _ _)).Ensures _ _ _
      rw [ensures_bind]
      refine ensures_attempt fun _ f1 hremoved => hmake hfree f1 fun hne => ?_
      exact laws.removeFile_spares _ _ _ hremoved _ home hentry halias hne
    | false =>
      refine ⟨halias, Iff.rfl, iff_of_false (fun hlinks => ?_) fun hfree => hfree hkind⟩
      cases hkind.symm.trans hlinks.1
  · next hmissing =>
    have hfree : ¬ T.Occupied (homePrefix ++ sanitize linkName) f :=
      fun hoccupied => hmissing (laws.occupied_exists _ _ hoccupied)
    exact hmake hfree f fun _ => Iff.rfl

end Stages

/-! ## 5. The advertised path -/

section Advertised

variable (T : FileTools F) (readLink : String → F → Option String) (info : HomeDirectoryInfo)
  (homePrefix : String)

def LeadsHome (path : String) (f : F) : Prop :=
  T.PlainDir (homePrefix ++ sanitize info.name) f ∧
    (components path = components (homePrefix ++ sanitize info.name) ∨
      ∃ linkName ∈ info.aliases, components path = components (homePrefix ++ sanitize linkName) ∧
        Links T readLink (homePrefix ++ sanitize linkName) (sanitize info.name) f)

/-- Where the home directory goes there is nothing or a directory, and where an alias goes nothing
    or a link, unless it is the place of the home directory. -/
structure Unobstructed (f : F) : Prop where
  home : T.pathExists (homePrefix ++ sanitize info.name) f = true →
    T.PlainDir (homePrefix ++ sanitize info.name) f
  links : ∀ linkName ∈ info.aliases, components (homePrefix ++ sanitize linkName) ≠
    components (homePrefix ++ sanitize info.name) →
      ¬ T.Occupied (homePrefix ++ sanitize linkName) f

/-- How what is there after the task depends on what was there before it. -/
structure Made (f f' : F) : Prop where
  entry : Entry homePrefix (homePrefix ++ sanitize info.name)
  dir : T.PlainDir (homePrefix ++ sanitize info.name) f' ↔
    (T.pathExists (homePrefix ++ sanitize info.name) f = true →
      T.PlainDir (homePrefix ++ sanitize info.name) f)
  links : ∀ linkName ∈ info.aliases, Entry homePrefix (homePrefix ++ sanitize linkName) ∧
    (components (homePrefix ++ sanitize linkName) ≠ components (homePrefix ++ sanitize info.name) →
      (Links T readLink (homePrefix ++ sanitize linkName) (sanitize info.name) f' ↔
        ¬ T.Occupied (homePrefix ++ sanitize linkName) f))

variable {T readLink info homePrefix} {Secluded : String → F → Prop} {useEtcSkel useSelinux : Bool}
  {f f' : F} {linkName : Option String} (hslash : EndsInSlash homePrefix)
  (haliases : info.aliases = linkName.toList)

include hslash haliases

theorem createHomeDirectory_made (laws : T.Lawful Secluded readLink)
    (hok : (createHomeDirectory T info homePrefix useEtcSkel useSelinux f).1 = .ok ()) :
    Made T readLink info homePrefix f
      (createHomeDirectory T info homePrefix useEtcSkel useSelinux f).2 := by
  rw [createHomeDirectory_eq] at hok ⊢
  refine ensures_of_run_ok ?_ hok
  refine (ensures_makeHome laws rfl).bind fun _ g hg => ?_
  obtain ⟨hentry, hdir, hbeside⟩ := hg
  rw [haliases]
  cases linkName with
  | none =>
    refine ⟨hentry, hdir, ?_⟩
    rw [haliases]
    exact nofun
  | some a =>
    rw [Option.toList_some, forM_eq_forM, forM_cons, bind_assoc]
    refine (ensures_linkAlias laws hslash rfl hentry).bind fun _ f' hlinked => ⟨hentry, ?_, ?_⟩
    · exact hlinked.2.1.trans hdir
    · rw [haliases]
      intro a' ha'
      obtain rfl := mem_singleton.mp ha'
      refine ⟨hlinked.1, fun hne => ?_⟩
      rw [hlinked.2.2, hbeside _ hlinked.1 hne]

/-- What is asked of the state after the task comes down to what was there before it. -/
theorem Made.leadsHome_iff {advertised : String} (hmade : Made T readLink info homePrefix f f')
    (hadvertised : EndsInSlash advertised) (hname : PlainName info.name)
    (hvalue : PlainName (linkName.getD info.name)) :
    LeadsHome T readLink info homePrefix (advertised ++ linkName.getD info.name) f' ↔
      components advertised = components homePrefix ∧
        (linkName.getD info.name).toList.head? ≠ some '.' ∧ Unobstructed T info homePrefix f := by
  have hentry : Entry homePrefix (homePrefix ++ sanitize (linkName.getD info.name)) := by
    cases linkName with
    | none => exact hmade.entry
    | some a => exact (hmade.links a (haliases ▸ mem_singleton_self a)).1
  have hat : ∀ name, Entry homePrefix (homePrefix ++ sanitize name) →
      (components (advertised ++ linkName.getD info.name) =
          components (homePrefix ++ sanitize name) ↔
        components advertised = components homePrefix ∧ linkName.getD info.name = sanitize name) :=
    fun _ => components_eq_iff hadvertised hslash hvalue.1
      (hvalue.component_ne (hentry.component_ne hslash))
  have halias : ∀ a ∈ info.aliases, linkName.getD info.name = a := by
    rw [haliases]
    cases linkName with
    | none => exact nofun
    | some a => exact fun a' ha' => (mem_singleton.mp ha').symm
  rw [← hvalue.sanitize_eq_iff]
  constructor
  · rintro ⟨hdir, hpath | ⟨a, ha, hpath, hlink⟩⟩
    · obtain ⟨hsame, hown⟩ := (hat _ hmade.entry).mp hpath
      have hclean : sanitize (linkName.getD info.name) = linkName.getD info.name :=
        hvalue.sanitize_eq_iff.mpr (hown ▸ hname.undotted)
      refine ⟨hsame, hclean, hmade.dir.mp hdir, fun a ha hne => absurd ?_ hne⟩
      rw [← halias a ha, hclean, hown]
    · obtain ⟨hsame, hown⟩ := (hat a (hmade.links a ha).1).mp hpath
      obtain rfl := halias a ha
      refine ⟨hsame, hown.symm, hmade.dir.mp hdir, fun b hb hne => ?_⟩
      obtain rfl := halias b hb
      exact ((hmade.links _ hb).2 hne).mp hlink
  · rintro ⟨hsame, hclean, hfree⟩
    have hplace := (hat _ hentry).mpr ⟨hsame, hclean.symm⟩
    refine ⟨hmade.dir.mpr hfree.home, ?_⟩
    by_cases hown : components (homePrefix ++ sanitize (linkName.getD info.name)) =
        components (homePrefix ++ sanitize info.name)
    · exact .inl (hplace.trans hown)
    · cases linkName with
      | none => exact absurd rfl hown
      | some a =>
        have ha : a ∈ info.aliases := haliases ▸ mem_singleton_self a
        exact .inr ⟨a, ha, hplace, ((hmade.links a ha).2 hown).mpr (hfree.links a ha hown)⟩

end Advertised

end HomeDirectory

section Configured

variable (P : IniParser I) (config : I) (R : Resolver Q) (cfg : TasksConfig) (T : TaskTools F)
  (tok : UserToken) (f : F)

def tasksPrefix : String :=
  P.getHomePrefix config ((splitUsername (R.homeInfoOf tok).name).map fun (_, domain) => domain)

/-- When the task is done, the path that NSS answers is the home directory or a link to it. -/
def AdvertisedIsMade (readLink : String → F → Option String) : Prop :=
  let R := R.withHome P config
  LeadsHome T.files readLink (R.homeInfoOf tok) (tasksPrefix P config R tok)
    (R.nssUserOf tok).homedir
    (handleHomeDirectory T (cfg.withHome P config) (R.homeInfoOf tok) f).2

/-- The configured prefixes end in a slash, and the values that make up the paths hold none. -/
structure PlainValues : Prop where
  advertised : EndsInSlash (P.getHomePrefix config none)
  made : EndsInSlash (tasksPrefix P config (R.withHome P config) tok)
  attr : PlainName ((R.withHome P config).tokenHomedirectoryAttr tok)
  value : PlainName ((R.withHome P config).tokenHomedirectory tok)

end Configured

/-! ## 6. A plain file system -/

inductive FileKind where
  | dir
  | link (target : String)
  deriving DecidableEq, Repr

abbrev PlainFiles := List Component → Option FileKind

def plainFiles : FileTools PlainFiles where
  pathExists path f := (f (components path)).isSome
  isDir path f := f (components path) = some .dir
  createDirAll path _ f := (.ok (), Function.update f (components path) (some .dir))
  lchown _ _ _ f := (.ok (), f)
  walkDir _ _ := []
  copy _ _ f := (.ok (), f)
  isSymlink path f :=
    match f (components path) with
    | some kind => .ok (kind ≠ .dir)
    | none => .error "NotFound"
  removeFile path f := (.ok (), Function.update f (components path) none)
  symlink target link f := (.ok (), Function.update f (components link) (some (.link target)))
  label _ f := (.ok (), f)

def plainLink (path : String) (f : PlainFiles) : Option String :=
  match f (components path) with
  | some (.link target) => some target
  | _ => none

theorem plainFiles_spares {path : String} {f : PlainFiles} {kind : Option FileKind} :
    SparesDirs plainFiles path f (Function.update f (components path) kind) := by
  intro _ dir _ _ hne
  simp [FileTools.PlainDir, FileTools.Occupied, plainFiles, Function.update_of_ne hne]

theorem plainFiles_lawful :
    plainFiles.Lawful (fun path f => f (components path) = some .dir) plainLink where
  label_alike _ f := Alike.refl f
  lchown_alike _ _ _ f := Alike.refl f
  createDirAll_new path _ f f' _ _ h := by
    cases h
    refine ⟨?_, ?_, fun _ path' _ _ hne => ?_⟩
    · simp [plainFiles]
    · simp
    · simp [FileTools.Occupied, plainFiles, Function.update_of_ne hne]
  createDirAll_below := nofun
  copy_below := nofun
  secluded_occupied path f h := by simp [FileTools.Occupied, plainFiles, h]
  occupied_exists path f h := by
    cases hpath : f (components path) with
    | none => simp [FileTools.Occupied, plainFiles, hpath] at h
    | some kind => simp [plainFiles, hpath]
  removeFile_spares path f f' h := by
    cases h
    exact plainFiles_spares
  symlink_made target link f f' h := by
    cases h
    refine ⟨?_, ?_, plainFiles_spares⟩
    · simp [plainFiles]
    · simp [plainLink]

def plainTools : TaskTools PlainFiles where
  files := plainFiles
  groups :=
    { getent := fun _ _ => none
      gpasswdAdd := fun _ _ f => f
      gpasswdDelete := fun _ _ f => f
      members := fun _ _ => [] }
  executeUserScript _ _ _ f := (0, f)
  writeKerberosConfigSnippet _ _ f := (.ok (), f)
  storeTgt _ _ _ f := (.ok (), f)
  loadProfilePhoto _ _ f := f
  applyIntunePolicy _ _ _ _ _ f := (.ok [], f)
  setupSubordinateIds _ _ _ f := (.ok (), f)

def plainTasks : TasksConfig where
  getHomePrefix _ := "/home/"
  useEtcSkel := false
  selinux := false
  logonScript := none
  groups := LocalGroups.sudoConfig
  nameCache := none

def emptyHomes : PlainFiles := fun path =>
  if path = components "/home/" ∨ path = components "/data/" then some .dir else none

def domainHomes : PlainIni :=
  [(("example.com", "home_prefix"), "/data/"), (("global", "home_attr"), "spn")]

end Himmelblau
