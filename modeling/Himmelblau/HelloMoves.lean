/-
  **The functions of `idprovider/common.rs` as moves of a view.**  Each function gets one
  statement: along which moves it takes the view of its account, that it leaves the views
  of other accounts alone, and what it answers.  Nothing later unfolds one of them.

  Accounts are other accounts if they differ in more than letter case: the tags of the
  keystore are lower-cased, the counter is not.
-/
import Himmelblau.HelloView

namespace Himmelblau.Entra

open Interface Config Msal FunctionBody Ctx Relation

variable {W ρ α β : Type}

/-! ## 1. Sealing -/

/-- What the TPM and the broker client promise of `Seals`: sealing with a key makes it
    true, and a value that opens was sealed with the key it opens under. -/
structure SealingLaws (P : HimmelblauProvider W) (Seals : SealedUnder) : Prop where
  sealsPrt : ∀ prt k pin w d,
    (P.outside.sealUserPrtWithHelloKey prt k pin w).1 = .ok d → Seals .prt k d
  sealsData : ∀ t k pin w sk text w' d, t ≠ .prt → (P.outside.msHelloKeyLoad k pin w).1 = some sk →
    (P.outside.sealData sk text w').1 = some d → Seals t k d
  opensUnder : ∀ t k pin w sk d w' x, t ≠ .prt → (P.outside.msHelloKeyLoad k pin w).1 = some sk →
    (P.outside.unsealData sk d w').1 = some x → Seals t k d

theorem SealingLaws.trivial (P : HimmelblauProvider W) : SealingLaws P fun _ _ _ => True :=
  ⟨fun _ _ _ _ _ _ => .intro, fun _ _ _ _ _ _ _ _ _ _ _ => .intro,
    fun _ _ _ _ _ _ _ _ _ _ _ => .intro⟩

namespace HimmelblauProvider

variable (P : HimmelblauProvider W)

def LoadedFrom (k : LoadableMsHelloKey) (sk : StorageKey) : Prop :=
  ∃ pin w, (P.outside.msHelloKeyLoad k pin w).1 = some sk

/-! ## 2. Moving one account -/

section Along

variable (a : String)

structure Others (c c' : Ctx W) : Prop where
  see : ∀ b, P.outside.toLowercase b ≠ P.outside.toLowercase a → P.see b c' = P.see b c
  own : P.WritesOwn c c'

/-- The account moves along `R`, and no other account does. -/
def Along (R : View → View → Prop) (c c' : Ctx W) : Prop :=
  ReflTransGen R (P.see a c) (P.see a c') ∧ P.Others a c c'

variable {P a} {R R' : View → View → Prop} {c c' c'' : Ctx W}

theorem SameViews.others (h : P.SameViews c c') : P.Others a c c' :=
  ⟨fun b _ => h.see b, h.own⟩

theorem Others.trans (h : P.Others a c c') (h' : P.Others a c' c'') : P.Others a c c'' :=
  ⟨fun b hb => (h'.see b hb).trans (h.see b hb), h.own.trans h'.own⟩

theorem Along.of_same (h : P.SameViews c c') : P.Along a R c c' :=
  ⟨by rw [h.see a], h.others⟩

theorem Along.trans (h : P.Along a R c c') (h' : P.Along a R c' c'') : P.Along a R c c'' :=
  ⟨h.1.trans h'.1, h.2.trans h'.2⟩

theorem Along.single (h : R (P.see a c) (P.see a c')) (ho : P.Others a c c') : P.Along a R c c' :=
  ⟨.single h, ho⟩

abbrev Going (P : HimmelblauProvider W) (Seals : SealedUnder) (own : Option LoadableMsHelloKey)
    (a : String) : Ctx W → Ctx W → Prop :=
  P.Along a (Mild a Seals own)

abbrev Moves (P : HimmelblauProvider W) (Seals : SealedUnder) (own : Option LoadableMsHelloKey)
    (a : String) : Ctx W → Ctx W → Prop :=
  P.Along a (Move a P.config.helloPinRetryCount Seals own)

theorem Along.mono (hR : ∀ v v', R v v' → R' v v') (h : P.Along a R c c') : P.Along a R' c c' :=
  ⟨ReflTransGen.mono hR _ _ h.1, h.2⟩

theorem Along.moves {Seals : SealedUnder} {own : Option LoadableMsHelloKey}
    (h : P.Going Seals own a c c') : P.Moves Seals own a c c' :=
  h.mono fun _ _ => .mild

end Along

/-! ## 3. The primitives -/

section Primitives

variable {P} {a : String} {c : Ctx W}

theorem others_put (t : HelloTag) (value : Option StoredKey) :
    P.Others a c { c with keystore := Function.update c.keystore (P.tag a t) value } :=
  ⟨fun _ hb => P.see_keystore_ne fun _ => P.tag_ne_of_lower hb,
    .update (.inl ⟨a, t, rfl⟩) value⟩

theorem ne_of_lower_ne {b : String} (h : P.outside.toLowercase b ≠ P.outside.toLowercase a) :
    a ≠ b := fun heq => h (heq ▸ rfl)

variable {e : Event} {k : LoadableMsHelloKey}

theorem others_log (he : e.account = a) :
    P.Others a c { c with provider.trace := e :: c.provider.trace } :=
  ⟨fun _ hb => P.see_log_ne (he ▸ ne_of_lower_ne hb), fun _ _ => rfl⟩

theorem see_counter (count : UInt32) (he : e.account = a) : P.see a { c with
        provider.badPinCounter := Function.update c.provider.badPinCounter a count
        provider.trace := e :: c.provider.trace } = { (P.see a c).log e with count := count } := by
  unfold see view View.log
  simp [he]

theorem others_counter (count : UInt32) (he : e.account = a) : P.Others a c { c with
        provider.badPinCounter := Function.update c.provider.badPinCounter a count
        provider.trace := e :: c.provider.trace } := by
  refine ⟨fun b hb => ?_, fun _ _ => rfl⟩
  have hne : a ≠ b := ne_of_lower_ne hb
  unfold see view
  simp [he, hne, Function.update_of_ne hne.symm]

variable (P a c)

theorem log_ensures (he : e.account = a) : (log e : Fn W ρ Unit).Ensures c
      (fun _ c' => P.see a c' = (P.see a c).log e ∧ P.Others a c c') (fun _ _ => False) :=
  ⟨P.see_log_self he, others_log he⟩

theorem insert_ensures (t : HelloTag) (key : StoredKey) :
    (insertTaggedHsmKey (P.tag a t) key : Fn W ρ Unit).Ensures c
      (fun _ c' => P.see a c' = (P.see a c).put t (some key) ∧ P.Others a c c')
      (fun _ _ => False) :=
  ⟨P.see_keystore_self, others_put t _⟩

theorem delete_ensures (t : HelloTag) :
    (deleteTaggedHsmKey (P.tag a t) : Fn W ρ Unit).Ensures c
      (fun _ c' => P.see a c' = (P.see a c).put t none ∧ P.Others a c c') (fun _ _ => False) :=
  ⟨P.see_keystore_self, others_put t _⟩

theorem reset_ensures :
    (resetBadPinCount a : Fn W ρ Unit).Ensures c
      (fun _ c' => P.see a c' = (P.see a c).reset a ∧ P.Others a c c') (fun _ _ => False) :=
  ⟨see_counter 0 rfl, others_counter 0 rfl⟩

theorem tryPin_ensures (pin : PinValue) : (P.tryPin a k pin : Fn W ρ _).Ensures c
      (fun r c' => P.see a c' = (P.see a c).log (.pinTried a r.isSome) ∧ P.Others a c c' ∧
        ∀ sk, r = some sk → P.LoadedFrom k sk) (fun _ _ => False) := by
  refine ⟨P.see_log_self rfl, ⟨fun _ hb => ?_, fun _ _ => rfl⟩, fun sk hsk => ⟨pin, _, hsk⟩⟩
  exact P.see_log_ne (ne_of_lower_ne hb)

/-- The tags that `handle_hello_bad_pin_count` deletes are all but the TOTP secret's. -/
theorem lock_eq_put (v : View) :
    (((v.put .hello none).put .decoupled none).put .prt none).put .refreshToken none = v.lock := by
  unfold View.put View.lock
  congr 1
  funext t
  cases t <;> rfl

theorem handleHelloBadPinCount_ensures (retFn : String → ρ) :
    (P.handleHelloBadPinCount a retFn).Ensures c
      (fun _ c' => P.see a c' = (P.see a c).bad a P.config.helloPinRetryCount ∧ P.Others a c c')
      (fun r c' => P.see a c' = (P.see a c).bad a P.config.helloPinRetryCount ∧
        P.Others a c c' ∧ ∃ msg, r = retFn msg) := by
  have hcount : (incrementBadPinCount a : Fn W ρ Unit).Ensures c
      (fun _ c' => c'.provider.badPinCounter a = (P.see a c).count + 1 ∧
        P.see a c' = { (P.see a c).log (.counted a ((P.see a c).count + 1)) with
          count := (P.see a c).count + 1 } ∧ P.Others a c c') (fun _ _ => False) :=
    ⟨Function.update_self .., see_counter _ rfl, others_counter _ rfl⟩
  refine hcount.andThen fun _ c1 ⟨hc, hsee, ho⟩ => ?_
  simp only [Body.ensures_bind, Body.ensures_get, hc]
  unfold View.bad
  split
  · rename_i heq
    rw [if_neg (heq ▸ UInt32.lt_irrefl _)]
    exact ⟨hsee, ho, _, rfl⟩
  · split
    · -- four deletions, each of a tag of this account
      refine ⟨?_, ?_, _, rfl⟩
      · rw [← lock_eq_put, ← hsee]
        simp only [← P.see_keystore_self]
        rfl
      · exact ho.trans (((others_put .hello none).trans (others_put .decoupled none)).trans
          ((others_put .prt none).trans (others_put .refreshToken none)))
    · exact ⟨hsee, ho⟩

end Primitives

section Specs

variable {P} (Seals : SealedUnder) (own : Option LoadableMsHelloKey) {a : String} {c c1 : Ctx W}

/-! ## 4. A failed attempt -/

theorem handleHelloBadPinCount_after (e : Event) (he : e.failed) (ha : e.account = a)
    (hsee : P.see a c1 = (P.see a c).log e) (ho : P.Others a c c1) (retFn : String → ρ) :
    (P.handleHelloBadPinCount a retFn).Ensures c1 (fun _ c' => P.Moves Seals own a c c')
      (fun r c' => P.Moves Seals own a c c' ∧
        ∃ msg, r = retFn msg) := by
  have halong : ∀ c', P.see a c' = (P.see a c1).bad a P.config.helloPinRetryCount →
      P.Others a c1 c' → P.Moves Seals own a c c' :=
    fun c' hsee' ho' => .single (hsee' ▸ hsee ▸ .failed _ e ha he) (ho.trans ho')
  exact (P.handleHelloBadPinCount_ensures a c1 retFn).mono
    (fun _ c' h => halong c' h.1 h.2) (fun _ c' h => ⟨halong c' h.1 h.2.1, h.2.2⟩)

variable {e : Event} {authCacheAction : AuthResult → β} {X : Except IdpError β → Ctx W → Prop}
  {k : LoadableMsHelloKey} {cred : String} {token : UserToken}

theorem totpDenied_after (he : e.failed) (ha : e.account = a)
    (hsee : P.see a c1 = (P.see a c).log e) (ho : P.Others a c c1)
    (hX : ∀ msg c', P.Moves Seals own a c c' → X (.ok (authCacheAction (.denied msg))) c') :
    (P.totpDenied a authCacheAction).Gives c1 X := by
  refine .bind
    ((handleHelloBadPinCount_after Seals own e he ha hsee ho _).mono (fun _ _ h => h) ?_) ?_
  · rintro r c' ⟨h, msg, rfl⟩
    exact hX msg c' h
  · intro _ c' h
    exact hX _ c' h

/-! ## 5. Checking a TOTP code -/

variable {Seals}

theorem unsealText_ensures (laws : SealingLaws P Seals) {sk : StorageKey}
    (hsk : P.LoadedFrom k sk) (data : SealedData) : (P.unsealText sk data : Fn W ρ _).Ensures c
      (fun r c' => P.SameViews c c' ∧ ∀ text, r = some text → Seals .totp k data)
      (fun _ _ => False) := by
  obtain ⟨pin, w, hload⟩ := hsk
  simp only [unsealText, Body.ensures_bind, ask, Body.ensures_call]
  split
  · exact ⟨.idle rfl rfl rfl, by simp⟩
  · rename_i bytes hbytes
    exact ⟨.idle rfl rfl rfl, fun _ _ =>
      laws.opensUnder _ _ _ _ _ _ _ _ (by decide) hload hbytes⟩

theorem tryCode_ensures (record : String) : (P.tryCode a record cred : Fn W ρ _).Ensures c
      (fun r c' => P.Others a c c' ∧
        match r with
        | none => P.see a c' = P.see a c
        | some accepted => P.see a c' = (P.see a c).log (.codeTried a accepted))
      (fun _ _ => False) := by
  refine (Silent.ask (P := P) _).ensures_bind fun r c1 hsame => ?_
  split
  · exact ⟨hsame.others, hsame.see a⟩
  · refine (P.log_ensures a _ rfl).andThen ?_
    intro _ c2 ⟨hsee, ho⟩
    exact ⟨hsame.others.trans ho, by rw [hsee, hsame.see a]⟩

variable (P Seals) in
/-- Every site that resets the counter because it is going to answer `Success`. -/
theorem log_success_reset {f : Unit → Fn W ρ α} {Q : α → Ctx W → Prop} {X : ρ → Ctx W → Prop}
    (hf : ∀ c', P.Going Seals own a c c' → (f ()).Ensures c' Q X) :
    (do log (.success a); let r ← resetBadPinCount a; f r).Ensures c Q X := by
  refine (P.log_ensures a c rfl).andThen fun _ c1 h1 => ?_
  refine (P.reset_ensures a c1).andThen fun _ c2 h2 => ?_
  have hlog : P.Going Seals own a c c1 := .single (h1.1 ▸ .log _ _ rfl rfl) h1.2
  have hreset : P.Going Seals own a c1 c2 :=
    .single (h2.1 ▸ .reset _ (.success a) _ (by rw [h1.1]; rfl) rfl) h2.2
  exact hf c2 (hlog.trans hreset)

theorem totpAccepted_ensures {pending : Bool} {secret : SealedData} {kt : KeyType}
    (hk : (P.see a c).key = some (k, kt)) (hsecret : Seals .totp k secret)
    (hX : ∀ c', P.Moves Seals own a c c' → X (.ok (authCacheAction (.success token))) c') :
    (P.totpAccepted a token pending secret authCacheAction).Gives c X := by
  unfold totpAccepted
  cases pending with
  | false => exact P.log_success_reset Seals own fun c' h => hX c' h.moves
  | true =>
    refine (P.insert_ensures a _ .totp _).andThen fun _ c1 h1 => ?_
    have hstored : P.Moves Seals own a c c1 :=
      .single (h1.1 ▸ .totpStored _ k kt secret hk hsecret) h1.2
    exact P.log_success_reset Seals own fun c' h => hX c' (hstored.trans h.moves)

/-- The answer is an error, or one that `authCacheAction` makes; if it is a success, it is
    one with `token`. -/
def AnswersWith (token : UserToken) (authCacheAction : AuthResult → β) (r : Except IdpError β) :
    Prop :=
  (∃ e, r = .error e) ∨
    ∃ res, r = .ok (authCacheAction res) ∧ ∀ t, res = .success t → t = token

theorem handleHelloPinTotpAuth_ensures (laws : SealingLaws P Seals) (helloPin : String)
    (pendingSealedTotp : Option SealedData) :
    (P.handleHelloPinTotpAuth a token cred helloPin pendingSealedTotp authCacheAction).Gives c
      (fun r c' => P.Moves Seals own a c c' ∧ AnswersWith token authCacheAction r) := by
  have hdenied : ∀ msg c', P.Moves Seals own a c c' → P.Moves Seals own a c c' ∧
      AnswersWith token authCacheAction (.ok (authCacheAction (.denied msg))) :=
    fun msg c' h => ⟨h, .inr ⟨_, rfl, nofun⟩⟩
  unfold handleHelloPinTotpAuth
  simp only [Body.ensures_bind, ensures_getKeystore, Body.ensures_orLeave]
  refine ⟨fun secret hsecret => ⟨?_, fun e he => ⟨.of_same (.idle rfl rfl rfl), .inl ⟨e, rfl⟩⟩⟩,
    fun e he => ⟨.of_same (.idle rfl rfl rfl), .inl ⟨e, rfl⟩⟩⟩
  rintro ⟨k, kt⟩ hkey
  rw [fetchHelloKey_eq_ok] at hkey
  split
  · exact ⟨.of_same (.idle rfl rfl rfl), .inl ⟨_, rfl⟩⟩
  · rename_i pin hpin
    refine (P.tryPin_ensures a c pin).andThen fun r c1 h1 => ?_
    obtain ⟨hsee1, ho1, hload⟩ := h1
    split
    · exact totpDenied_after Seals own rfl rfl hsee1 ho1 hdenied
    · rename_i sk
      refine (unsealText_ensures laws (hload sk rfl) secret).andThen fun r c2 h2 => ?_
      obtain ⟨hsame2, hseals⟩ := h2
      have hpinned : P.Moves Seals own a c c2 :=
        .trans (.single (hsee1 ▸ .mild (.log _ _ rfl rfl)) ho1) (.of_same hsame2)
      split
      · exact ⟨hpinned, .inl ⟨_, rfl⟩⟩
      · rename_i record
        refine (tryCode_ensures record).andThen fun r c3 h3 => ?_
        obtain ⟨ho3, hsee3⟩ := h3
        split
        · exact ⟨hpinned.trans ⟨by rw [hsee3], ho3⟩, .inl ⟨_, rfl⟩⟩
        · have hcode : P.Moves Seals own a c c3 :=
            hpinned.trans (.single (hsee3 ▸ .mild (.log _ _ rfl rfl)) ho3)
          have hkey3 : (P.see a c3).key = some (k, kt) := by
            rw [hsee3, hsame2.see a, hsee1]
            exact hkey
          refine totpAccepted_ensures own hkey3 (hseals record rfl) ?_
          exact fun c' h =>
            ⟨hcode.trans h, .inr ⟨_, rfl, fun t ht => (AuthResult.success.inj ht).symm⟩⟩
        · refine totpDenied_after Seals own rfl rfl hsee3 ho3
            ?_
          exact fun msg c' h => hdenied msg c' (hpinned.trans h)

/-! ## 6. Offline logins -/

theorem loadCachedPrt_ensures : (P.loadCachedPrt k a cred).Ensures c (fun _ c' => P.SameViews c c')
      (fun r c' => P.SameViews c c' ∧ ∀ t, r ≠ .ok (.success t)) := by
  unfold loadCachedPrt
  simp only [Body.ensures_bind, ensures_getKeystore]
  split
  · exact .idle rfl rfl rfl
  · refine (Silent.ask (P := P) _ _).andThen fun r c1 h1 => ?_
    split
    · exact ⟨h1, by simp⟩
    · refine (Silent.ask (P := P) _ _).andThen fun r c2 h2 => ?_
      have h : P.SameViews c c2 := h1.trans h2
      split
      · exact ⟨h, by simp⟩
      · exact ⟨h, by simp⟩
      · exact ((P.refreshCacheAdd_idle _).silent (P := P) c2).mono (fun _ _ h' => h.trans h')
          fun _ _ h => h.elim

theorem loadCachedRefreshToken_ensures (sk : StorageKey) :
    (P.loadCachedRefreshToken sk a).Ensures c (fun _ c' => P.SameViews c c')
      (fun r c' => P.SameViews c c' ∧ ∀ t, r ≠ .ok (.success t)) := by
  unfold loadCachedRefreshToken
  simp only [Body.ensures_bind, ensures_getKeystore]
  split
  · exact .idle rfl rfl rfl
  · refine ((P.unsealText_calm _ _).idle.silent (P := P) c).andThen fun r c1 h1 => ?_
    split
    · exact ⟨h1, by simp⟩
    · exact ((P.refreshCacheAdd_idle _).silent (P := P) c1).mono (fun _ _ h' => h1.trans h')
        fun _ _ h => h.elim

theorem offlinePin_ensures : (P.offlinePin a token cred).Gives c
      (fun r c' => P.Moves Seals own a c c' ∧ AnswersWith token id r) := by
  have hother : ∀ r c', P.Moves Seals own a c c' → (∀ t, r ≠ .ok (.success t)) →
      P.Moves Seals own a c c' ∧ AnswersWith token id r := by
    intro r c' h hr
    refine ⟨h, ?_⟩
    cases r with
    | error e => exact .inl ⟨e, rfl⟩
    | ok res => exact .inr ⟨res, rfl, fun t ht => absurd (congrArg Except.ok ht) (hr t)⟩
  unfold offlinePin
  simp only [Body.ensures_bind, ensures_getKeystore, Body.ensures_orLeave]
  refine ⟨?_, fun e he => ⟨.of_same (.idle rfl rfl rfl), .inl ⟨e, rfl⟩⟩⟩
  rintro ⟨k, kt⟩ hkey
  split
  · exact ⟨.of_same (.idle rfl rfl rfl), .inl ⟨_, rfl⟩⟩
  · rename_i pin hpin
    refine (P.tryPin_ensures a c pin).andThen fun r c1 h1 => ?_
    obtain ⟨hsee1, ho1, -⟩ := h1
    split
    · rename_i sk
      have hpinned : P.Moves Seals own a c c1 := .single (hsee1 ▸ .mild (.log _ _ rfl rfl)) ho1
      refine .bind ((loadCachedPrt_ensures).mono (fun _ _ h => h)
        fun r c' h => hother r c' (hpinned.trans (.of_same h.1)) h.2) fun _ c2 h2 => ?_
      refine .bind ((loadCachedRefreshToken_ensures sk).mono (fun _ _ h => h)
        fun r c' h => hother r c' ((hpinned.trans (.of_same h2)).trans (.of_same h.1)) h.2)
        fun _ c3 h3 => ?_
      have hloaded : P.Moves Seals own a c c3 := (hpinned.trans (.of_same h2)).trans (.of_same h3)
      simp only [Body.ensures_bind, ensures_getKeystore]
      split
      · exact hother _ _ hloaded (by simp)
      · refine P.log_success_reset Seals own fun c' h => ?_
        exact ⟨hloaded.trans h.moves, .inr ⟨_, rfl, fun t ht => (AuthResult.success.inj ht).symm⟩⟩
    · refine .bind ((handleHelloBadPinCount_after Seals own (.pinTried a false) rfl rfl hsee1 ho1
        _).mono (fun _ _ h => h) ?_) fun _ c' h => hother _ _ h (by simp)
      rintro r c' ⟨h, msg, rfl⟩
      exact hother _ _ h (by simp)

theorem himmelblauOfflineAuthStep_ensures (laws : SealingLaws P Seals) (token : UserToken)
    (req : PamAuthRequest) :
    (P.himmelblauOfflineAuthStep a token req).Gives c
      (fun r c' => P.Moves Seals own a c c' ∧ AnswersWith token id r) := by
  unfold himmelblauOfflineAuthStep
  simp only [Body.ensures_bind, Body.ensures_get]
  split
  · exact offlinePin_ensures own
  · exact handleHelloPinTotpAuth_ensures own laws _ _
  · exact ⟨.of_same (.idle rfl rfl rfl), .inl ⟨_, rfl⟩⟩

/-! ## 7. New keys -/

theorem storeHelloKey_ensures (amrNgcmfa : Bool) :
    (P.storeHelloKey a amrNgcmfa k : Fn W ρ Unit).Ensures c
      (fun _ c' => P.see a c' = (P.see a c).store a amrNgcmfa k ∧ P.Others a c c')
      (fun _ _ => False) := by
  have htag : P.fetchHelloKeyTag a amrNgcmfa =
      P.tag a (if amrNgcmfa then .hello else .decoupled) := by
    cases amrNgcmfa <;> rfl
  unfold storeHelloKey
  rw [htag]
  refine (P.insert_ensures a c _ _).andThen fun _ c1 h1 => ?_
  refine (P.log_ensures a c1 rfl).mono (fun _ c2 h2 => ?_) fun _ _ h => h
  exact ⟨by rw [h2.1, h1.1]; rfl, h1.2.trans h2.2⟩

/-- The key was made for the PIN: registered with the identity provider, or by the TPM alone. -/
def CreatedFor (P : HimmelblauProvider W) (token : UnixUserToken) (cred : String)
    (k : LoadableMsHelloKey) : Bool → Prop
  | true => ∃ w, (P.outside.provisionHelloForBusinessKey token cred w).1 = .ok k
  | false => ∃ pin w, P.outside.pinValueNew cred = some pin ∧
      (P.outside.msHelloKeyCreate pin w).1 = some k

theorem provisionOrCreateHelloKey_creates (token : UnixUserToken) (amrNgcmfa : Bool) :
    (P.provisionOrCreateHelloKey token amrNgcmfa cred : Fn W ρ _).Ensures c
      (fun r c' => P.SameViews c c' ∧ ∀ k, r = some k → P.CreatedFor token cred k amrNgcmfa)
      (fun _ _ => False) := by
  have hmade : (P.provisionOrCreateHelloKey token amrNgcmfa cred : Fn W ρ _).Ensures c
      (fun r _ => ∀ k, r = some k → P.CreatedFor token cred k amrNgcmfa) (fun _ _ => False) := by
    unfold provisionOrCreateHelloKey
    cases amrNgcmfa with
    | true =>
      simp only [if_true, Body.ensures_bind, ask, Body.ensures_call]
      split
      · simp
      · rename_i key hkey
        rintro k ⟨rfl⟩
        exact ⟨_, hkey⟩
    | false =>
      unfold createDecoupledHelloKey
      simp only [Bool.false_eq_true, if_false]
      split
      · simp
      · rename_i pin hpin
        exact fun k hk => ⟨pin, _, hpin, hk⟩
  exact (((P.provisionOrCreateHelloKey_calm amrNgcmfa cred).idle.silent (P := P) c).and hmade).mono
    (fun _ _ h => h) fun _ _ h => h.1

theorem changeAuthToken_ensures (token : UnixUserToken) (newTok : String) :
    (P.changeAuthToken a token newTok).Ensures c
      (fun r c' => (P.SameViews c c' ∧ ∃ e, r = .error e) ∨
        (P.Others a c c' ∧ r = .ok true ∧ ∃ amrNgcmfa k, token.amrNgcmfa = some amrNgcmfa ∧
          P.CreatedFor token newTok k amrNgcmfa ∧
          P.see a c' = (P.see a c).store a amrNgcmfa k))
      (fun _ _ => False) := by
  refine (P.delayedInit_calm.idle.silent (P := P) c).andThen fun ok c1 h1 => ?_
  split
  · refine (Silent.ask (P := P) _ c1).andThen fun now c2 h2 => ?_
    refine ((P.checkOnline_calm now).idle.silent (P := P) c2).andThen fun online c3 h3 => ?_
    have hsame : P.SameViews c c3 := (h1.trans h2).trans h3
    split
    · split
      · exact .inl ⟨hsame, _, rfl⟩
      · rename_i amrNgcmfa hamr
        split
        · exact .inl ⟨hsame, _, rfl⟩
        · split
          · exact .inl ⟨hsame, _, rfl⟩
          · refine (provisionOrCreateHelloKey_creates _ _).andThen fun key c4 h4 => ?_
            have hsame4 : P.SameViews c c4 := hsame.trans h4.1
            split
            · exact .inl ⟨hsame4, _, rfl⟩
            · rename_i k
              refine (storeHelloKey_ensures amrNgcmfa).andThen fun _ c5 h5 => ?_
              exact .inr ⟨hsame4.others.trans h5.2, rfl, amrNgcmfa, k, hamr, h4.2 k rfl,
                by rw [h5.1, hsame4.see a]⟩
    · exact .inl ⟨hsame, _, rfl⟩
  · exact .inl ⟨h1, _, rfl⟩

/-! ## 8. Sealing what a login obtained -/

theorem sealRefreshToken_ensures (laws : SealingLaws P Seals) (pin refreshToken : String) :
    (P.sealRefreshToken k pin refreshToken : Fn W ρ _).Ensures c
      (fun r c' => P.SameViews c c' ∧ ∀ d, r = some d → Seals .refreshToken k d)
      (fun _ _ => False) := by
  unfold sealRefreshToken
  split
  · exact ⟨.idle rfl rfl rfl, by simp⟩
  · rename_i pin' hpin
    simp only [Body.ensures_bind, ask, Body.ensures_call]
    split
    · exact ⟨.idle rfl rfl rfl, by simp⟩
    · rename_i sk hsk
      exact ⟨.idle rfl rfl rfl, fun d hd => laws.sealsData _ _ _ _ _ _ _ _ (by decide) hsk hd⟩

theorem sealToken_ensures (laws : SealingLaws P Seals) (token : UnixUserToken)
    (hk : (P.see a c).Holds own k) (pin : String) {onRefreshTokenError : Fn W ρ Unit}
    {X : ρ → Ctx W → Prop}
    (herr : ∀ c', P.SameViews c c' →
      onRefreshTokenError.Ensures c' (fun _ c'' => P.Going Seals own a c c'') X) :
    (P.sealToken a token k pin onRefreshTokenError).Ensures c
      (fun _ c' => P.Going Seals own a c c') X := by
  unfold sealToken
  split
  · rename_i prt hprt
    simp only [Body.ensures_bind, ask, Body.ensures_call]
    split
    · rename_i d hd
      refine (P.insert_ensures a _ .prt (.sealedData d)).mono (fun _ c' h => ?_) fun _ _ h => h.elim
      exact .single (h.1 ▸ .sealed _ .prt k d (.inl rfl) hk (laws.sealsPrt _ _ _ _ _ hd))
        ⟨h.2.see, h.2.own⟩
    · exact .of_same (.idle rfl rfl rfl)
  · refine (sealRefreshToken_ensures laws pin _).andThen fun r c1 h1 => ?_
    obtain ⟨hsame, hseals⟩ := h1
    split
    · rename_i d
      refine (P.insert_ensures a _ .refreshToken (.sealedData d)).mono (fun _ c' h => ?_)
        fun _ _ h => h.elim
      have hk1 : (P.see a c1).Holds own k := by rw [hsame.see a]; exact hk
      exact .trans (.of_same hsame)
        (.single (h.1 ▸ .sealed _ .refreshToken k d (.inr rfl) hk1 (hseals d rfl)) h.2)
    · exact herr c1 hsame

end Specs

end HimmelblauProvider

end Himmelblau.Entra
