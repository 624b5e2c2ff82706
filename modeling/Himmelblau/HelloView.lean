/-
  **What a provider function can do to an account.**  The view of an account is what the
  provider keeps of it: the five tagged values, the counter of bad PINs, and its part of
  the trace.  `Move` lists the elementary things that can happen to a view, `Steps` says
  that a function did a number of them to one account and nothing to any other.

  Most functions do nothing to any view (`Silent`).  Invariants of views are proved
  against `Move` and never look at a function again.
-/
import Himmelblau.ProviderIdle

namespace Himmelblau.Entra

open Interface Config Msal FunctionBody Ctx

variable {W ρ α β : Type}

/-! ## 1. Tags -/

inductive HelloTag where
  | hello
  | decoupled
  | prt
  | refreshToken
  | totp
  deriving DecidableEq, Repr

def HelloTag.ending : HelloTag → String
  | hello => "/hello"
  | decoupled => "/hello_decoupled"
  | prt => "/hello_prt"
  | refreshToken => "/hello_refresh_token"
  | totp => "/hello_totp"

/-- All endings of tags, those of the device last. -/
def tagEndings : List String :=
  ["/hello", "/hello_decoupled", "/hello_prt", "/hello_refresh_token", "/hello_totp",
    "/certificate", "/intune", "/transport"]

theorem HelloTag.ending_mem (t : HelloTag) : t.ending ∈ tagEndings := by
  cases t <;> decide

variable {t t' : HelloTag}

theorem HelloTag.ending_injective (h : t.ending = t'.ending) : t = t' := by
  revert h
  cases t <;> cases t' <;> decide

theorem tagEndings_suffix : ∀ s ∈ tagEndings, ∀ t ∈ tagEndings, s.toList <:+ t.toList → s = t := by
  decide

theorem tag_injective {x y s t : String} (hs : s ∈ tagEndings) (ht : t ∈ tagEndings)
    (h : x ++ s = y ++ t) : x = y ∧ s = t := by
  have hlist : x.toList ++ s.toList = y.toList ++ t.toList := by
    simpa using congrArg String.toList h
  have hst : s = t := by
    have hs' : s.toList <:+ x.toList ++ s.toList := List.suffix_append _ _
    have ht' : t.toList <:+ x.toList ++ s.toList := hlist ▸ List.suffix_append _ _
    rcases List.suffix_or_suffix_of_suffix hs' ht' with hpre | hpre
    · exact tagEndings_suffix s hs t ht hpre
    · exact (tagEndings_suffix t ht s hs hpre).symm
  subst hst
  refine ⟨?_, rfl⟩
  exact String.toList_inj.mp (List.append_cancel_right hlist)

namespace HimmelblauProvider

variable (P : HimmelblauProvider W)

def tag (a : String) (t : HelloTag) : String := P.outside.toLowercase a ++ t.ending

variable {P}

variable {a b : String}

theorem tag_eq_iff :
    P.tag a t = P.tag b t' ↔ P.outside.toLowercase a = P.outside.toLowercase b ∧ t = t' := by
  constructor
  · intro h
    obtain ⟨ha, ht⟩ := tag_injective t.ending_mem t'.ending_mem h
    exact ⟨ha, HelloTag.ending_injective ht⟩
  · rintro ⟨ha, rfl⟩
    rw [tag, ha, tag]

theorem device_tag_ne (b : String) (t : HelloTag) {ending : String}
    (h : ending ∈ ["/certificate", "/intune", "/transport"]) : P.tag b t ≠ P.domain ++ ending := by
  intro heq
  have hmem : ending ∈ tagEndings := by
    revert h
    simp only [List.mem_cons, List.not_mem_nil, or_false, tagEndings]
    tauto
  obtain ⟨-, ht⟩ := tag_injective t.ending_mem hmem heq
  subst ht
  revert h
  cases t <;> decide

end HimmelblauProvider

/-! ## 2. Views -/

structure View where
  tags : HelloTag → Option StoredKey
  count : UInt32
  events : List Event

namespace View

variable (v : View)

def key : Option (LoadableMsHelloKey × KeyType) :=
  match helloKeyOf (v.tags .hello) with
  | some k => some (k, .hello)
  | none =>
    match helloKeyOf (v.tags .decoupled) with
    | some k => some (k, .decoupled)
    | none => none

def put (t : HelloTag) (value : Option StoredKey) : View :=
  { v with tags := Function.update v.tags t value }

theorem tags_put_self (t : HelloTag) (value : Option StoredKey) :
    (v.put t value).tags t = value := Function.update_self ..

variable {value : Option StoredKey}

theorem tags_put_of_ne (h : t' ≠ t) :
    (v.put t value).tags t' = v.tags t' := Function.update_of_ne h ..

def log (e : Event) : View := { v with events := e :: v.events }

def reset (v : View) (a : String) : View := { v.log (.reset a) with count := 0 }

/-- Both keys, the PRT and the refresh token are deleted; a TOTP secret is not. -/
def lock : View :=
  { v with tags := fun t => if t = .totp then v.tags .totp else none }

def bad (a : String) (limit : UInt32) : View :=
  let v' := { v.log (.counted a (v.count + 1)) with count := v.count + 1 }
  if limit < v.count + 1 then v'.lock else v'

def store (a : String) (amrNgcmfa : Bool) (k : LoadableMsHelloKey) : View :=
  (v.put (if amrNgcmfa then .hello else .decoupled) (some (.helloKey k))).log (.helloKeyStored a)

def validated (v : View) : List UserToken :=
  v.events.filterMap fun
    | .validated _ t => some t
    | _ => none

/-- `k` is the key that is fetched, or the key `own` that the step has just stored. -/
def Holds (own : Option LoadableMsHelloKey) (k : LoadableMsHelloKey) : Prop :=
  (∃ kt, v.key = some (k, kt)) ∨
    (own = some k ∧ (v.tags .hello = some (.helloKey k) ∨ v.tags .decoupled = some (.helloKey k)))

end View

/-- Events that change neither the counter nor a key. -/
def Event.quiet : Event → Bool
  | .tokenAnswer .. | .success _ | .pinTried _ true | .codeTried _ true => true
  | _ => false

def Event.failed : Event → Bool
  | .pinTried _ false | .codeTried _ false => true
  | _ => false

/-- The answers of the identity provider after which the counter is reset: a token, or a
    refusal of the stored PRT or refresh token. -/
def resets : TokenRequest → Option MsalError → Bool
  | _, none => true
  | .helloKey, some _ => false
  | .prt, some (.requestFailed _) | .prt, some (.acquireTokenFailed _) => false
  | .prt, some e => !isSsprRequired e
  | .refreshToken, some (.requestFailed _) => false
  | .refreshToken, some e => !isSsprRequired e

/-- What a reset follows: such an answer, or the decision to answer `Success`. -/
def Event.allowsReset : Event → Bool
  | .success _ => true
  | .tokenAnswer _ request error => resets request error
  | _ => false

abbrev SealedUnder := HelloTag → LoadableMsHelloKey → SealedData → Prop

section Moves

variable (a : String) (limit : UInt32) (Seals : SealedUnder) (own : Option LoadableMsHelloKey)

/-- What can happen to the view of `a` while its keys stay. -/
inductive Mild : View → View → Prop
  | log (v : View) (e : Event) (ha : e.account = a) (he : e.quiet) : Mild v (v.log e)
  | reset (v : View) (e : Event) (es : List Event) (hv : v.events = e :: es)
      (he : e.allowsReset) : Mild v (v.reset a)
  | sealed (v : View) (t : HelloTag) (k : LoadableMsHelloKey) (d : SealedData)
      (ht : t = .prt ∨ t = .refreshToken) (hk : v.Holds own k) (hd : Seals t k d) :
      Mild v (v.put t (some (.sealedData d)))
  | dropped (v : View) (t : HelloTag) (ht : t = .prt ∨ t = .refreshToken) : Mild v (v.put t none)

/-- What can happen to it at all; a new key and a validated token are told apart. -/
inductive Move : View → View → Prop
  | mild {v v' : View} (h : Mild a Seals own v v') : Move v v'
  | bad (v : View) : Move v (v.bad a limit)
  | failed (v : View) (e : Event) (ha : e.account = a) (he : e.failed) :
      Move v ((v.log e).bad a limit)
  | totpStored (v : View) (k : LoadableMsHelloKey) (kt : KeyType) (d : SealedData)
      (hk : v.key = some (k, kt)) (hd : Seals .totp k d) :
      Move v (v.put .totp (some (.sealedData d)))

end Moves

section Keys

variable {a : String} {Seals : SealedUnder} {own : Option LoadableMsHelloKey} {v v' : View}

theorem Mild.tags_eq (h : Mild a Seals own v v') :
    v'.tags .hello = v.tags .hello ∧ v'.tags .decoupled = v.tags .decoupled := by
  cases h with
  | log e ha he => exact ⟨rfl, rfl⟩
  | reset e es hv he => exact ⟨rfl, rfl⟩
  | sealed t k d ht hk hd => rcases ht with rfl | rfl <;> exact ⟨rfl, rfl⟩
  | dropped t ht => rcases ht with rfl | rfl <;> exact ⟨rfl, rfl⟩

theorem View.key_congr (hello : v'.tags .hello = v.tags .hello)
    (decoupled : v'.tags .decoupled = v.tags .decoupled) : v'.key = v.key := by
  unfold View.key
  rw [hello, decoupled]

theorem View.Holds.mild {k : LoadableMsHelloKey} (hk : v.Holds own k) (h : Mild a Seals own v v') :
    v'.Holds own k := by
  unfold View.Holds at hk ⊢
  rw [View.key_congr h.tags_eq.1 h.tags_eq.2, h.tags_eq.1, h.tags_eq.2]
  exact hk

theorem View.Holds.milds {k : LoadableMsHelloKey} (hk : v.Holds own k)
    (h : Relation.ReflTransGen (Mild a Seals own) v v') : v'.Holds own k := by
  induction h with
  | refl => exact hk
  | tail _ hstep ih => exact ih.mild hstep

end Keys

namespace HimmelblauProvider

variable (P : HimmelblauProvider W)

def view (a : String) (keystore : KeyStore) (p : ProviderState W) : View where
  tags t := keystore (P.tag a t)
  count := p.badPinCounter a
  events := p.trace.filter (·.account = a)

def see (a : String) (c : Ctx W) : View := P.view a c.keystore c.provider

theorem fetchHelloKey_eq (a : String) (c : Ctx W) :
    P.fetchHelloKey a c.keystore =
      match (P.see a c).key with
      | some key => .ok key
      | none => .error .badRequest := by
  change (match helloKeyOf ((P.see a c).tags .hello) with
    | some k => Except.ok (k, KeyType.hello)
    | none =>
      match helloKeyOf ((P.see a c).tags .decoupled) with
      | some k => .ok (k, .decoupled)
      | none => .error IdpError.badRequest) = _
  unfold View.key
  cases helloKeyOf ((P.see a c).tags .hello) with
  | some k => rfl
  | none => cases helloKeyOf ((P.see a c).tags .decoupled) <;> rfl

variable {a b : String} {c : Ctx W} {value : Option StoredKey}

theorem fetchHelloKey_eq_ok {key : LoadableMsHelloKey × KeyType} :
    P.fetchHelloKey a c.keystore = .ok key ↔ (P.see a c).key = some key := by
  rw [P.fetchHelloKey_eq]
  cases (P.see a c).key with
  | none => simp
  | some key' => simp

/-! ## 3. How the primitives change a view -/

omit P in
@[simp] theorem ensures_getKeystore {c : Ctx W} {Q : KeyStore → Ctx W → Prop}
    {X : ρ → Ctx W → Prop} : (getKeystore : Fn W ρ KeyStore).Ensures c Q X ↔ Q c.keystore c :=
  Iff.rfl

theorem see_keystore_ne {tag : String} (h : ∀ t, P.tag b t ≠ tag) :
    P.see b { c with keystore := Function.update c.keystore tag value } = P.see b c := by
  unfold see view
  congr 1
  funext t
  exact Function.update_of_ne (h t) _ _

theorem tag_injective_right : Function.Injective (P.tag a) :=
  fun _ _ h => (tag_eq_iff.mp h).2

theorem see_keystore_self :
    P.see a { c with keystore := Function.update c.keystore (P.tag a t) value } =
      (P.see a c).put t value := by
  unfold see view View.put
  congr 1
  exact Function.update_comp_eq_of_injective _ P.tag_injective_right _ _

theorem tag_ne_of_lower (h : P.outside.toLowercase b ≠ P.outside.toLowercase a) :
    P.tag b t ≠ P.tag a t' :=
  fun heq => h (tag_eq_iff.mp heq).1

theorem see_log_self {e : Event} (h : e.account = a) :
    P.see a { c with provider.trace := e :: c.provider.trace } = (P.see a c).log e := by
  unfold see view View.log
  simp [h]

theorem see_log_ne {e : Event} (h : e.account ≠ b) :
    P.see b { c with provider.trace := e :: c.provider.trace } = P.see b c := by
  unfold see view
  simp [h]

/-! ## 4. Functions that leave every view alone -/

/-- The tags that the provider can write: those of an account, and those of the device. -/
def Writes (key : String) : Prop :=
  (∃ a t, key = P.tag a t) ∨
    ∃ ending ∈ ["/certificate", "/intune", "/transport"], key = P.domain ++ ending

def WritesOwn (c c' : Ctx W) : Prop := ∀ key, ¬ P.Writes key → c'.keystore key = c.keystore key

structure SameViews (c c' : Ctx W) : Prop where
  see : ∀ b, P.see b c' = P.see b c
  own : P.WritesOwn c c'

def Silent (p : Fn W ρ α) : Prop := Body.Stays P.SameViews p

variable {P}

theorem WritesOwn.trans {c' c'' : Ctx W} (h : P.WritesOwn c c') (h' : P.WritesOwn c' c'') :
    P.WritesOwn c c'' :=
  fun key hkey => (h' key hkey).trans (h key hkey)

theorem WritesOwn.update {tag : String} (h : P.Writes tag) (value : Option StoredKey) :
    P.WritesOwn c { c with keystore := Function.update c.keystore tag value } := by
  intro key hkey
  refine Function.update_of_ne (fun heq => hkey ?_) _ _
  rw [heq]
  exact h

theorem SameViews.trans {c' c'' : Ctx W} (h : P.SameViews c c') (h' : P.SameViews c' c'') :
    P.SameViews c c'' :=
  ⟨fun b => (h'.see b).trans (h.see b), h.own.trans h'.own⟩

theorem SameViews.idle {c' : Ctx W} (hks : c'.keystore = c.keystore)
    (hcount : c'.provider.badPinCounter = c.provider.badPinCounter)
    (htrace : c'.provider.trace = c.provider.trace) : P.SameViews c c' where
  see b := by
    unfold HimmelblauProvider.see view
    rw [hks, hcount, htrace]
  own key _ := congrFun hks key

theorem SameViews.device {ending : String}
    (h : ending ∈ ["/certificate", "/intune", "/transport"]) (value : Option StoredKey) :
    P.SameViews c
      { c with keystore := Function.update c.keystore (P.domain ++ ending) value } where
  see b := P.see_keystore_ne fun t => device_tag_ne b t h
  own := .update (.inr ⟨ending, h, rfl⟩) value

instance : Std.Refl P.SameViews := ⟨fun _ => .idle rfl rfl rfl⟩

instance : IsTrans (Ctx W) P.SameViews := ⟨fun _ _ _ h h' => h.trans h'⟩

namespace Silent

theorem pure (a : α) : P.Silent (pure a : Fn W ρ α) := Body.Stays.pure a

theorem bind {p : Fn W ρ α} {f : α → Fn W ρ β} (hp : P.Silent p) (hf : ∀ a, P.Silent (f a)) :
    P.Silent (p >>= f) := Body.Stays.bind hp hf

theorem get : P.Silent (Body.get : Fn W ρ (Ctx W)) := Body.Stays.get

theorem modify {u : Ctx W → Ctx W} (h : ∀ c, P.SameViews c (u c)) :
    P.Silent (Body.modify u : Fn W ρ Unit) := h

theorem ask (f : Ext W α) : P.Silent (ask f : Fn W ρ α) := fun _ => .idle rfl rfl rfl

theorem getKeystore : P.Silent (getKeystore : Fn W ρ KeyStore) :=
  fun _ => .idle rfl rfl rfl

theorem insertDevice {ending : String} (h : ending ∈ ["/certificate", "/intune", "/transport"])
    (key : StoredKey) : P.Silent (insertTaggedHsmKey (P.domain ++ ending) key : Fn W ρ Unit) :=
  fun _ => .device h _

theorem deleteDevice {ending : String} (h : ending ∈ ["/certificate", "/intune", "/transport"]) :
    P.Silent (deleteTaggedHsmKey (P.domain ++ ending) : Fn W ρ Unit) :=
  fun _ => .device h _

theorem ensures_bind {p : Fn W ρ α} {f : α → Fn W ρ β} {Q : β → Ctx W → Prop}
    {X : ρ → Ctx W → Prop} (hp : P.Silent p)
    (hf : ∀ a c', P.SameViews c c' → (f a).Ensures c' Q X) : (p >>= f).Ensures c Q X :=
  Body.Ensures.bind ((hp c).mono (fun _ _ h => h) fun _ _ h => h.elim) hf

end Silent

end HimmelblauProvider

end Himmelblau.Entra

namespace Himmelblau

open Interface Config Msal FunctionBody Entra Entra.Ctx

variable {W ρ α : Type}

theorem FunctionBody.Body.Stays.silent {P : HimmelblauProvider W} {p : Fn W ρ α}
    (h : Stays Idle p) : P.Silent p :=
  h.mono fun h' => .idle h'.keystore h'.badPinCounter h'.trace

end Himmelblau
