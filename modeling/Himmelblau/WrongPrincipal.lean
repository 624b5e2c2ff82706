/-
  **What a token of the wrong principal leaves behind.**  After a PIN, `token_validate` compares
  the user of the token with the account.  Both providers seal the token's credential with the
  account's Hello key and store it before that, and the resolver commits the keystore whatever
  the step answered: the credential of another user stays under the account's tag.

  A lookup in the refresh cache purges what is older than a day, also in such a step.
-/
import Himmelblau.LoginRules
import Himmelblau.SessionDenial

namespace Himmelblau

open Interface Config Msal FunctionBody Entra Entra.Ctx

variable {W ρ α β : Type}

/-! ## 1. The stores of an account -/

@[ext]
structure Stores where
  prt : Option StoredKey
  refreshToken : Option StoredKey
  cachedPrt : Option (SealedData × ℕ)
  cachedRefreshToken : Option (String × ℕ)

def Entra.HimmelblauProvider.stores (P : HimmelblauProvider W) (a : String) (ks : KeyStore)
    (p : ProviderState W) : Stores where
  prt := ks (P.fetchHelloPrtKeyTag a)
  refreshToken := ks (P.fetchHelloRefreshTokenKeyTag a)
  cachedPrt := p.refreshCache (P.outside.toLowercase a)
  cachedRefreshToken := p.refreshTokenCache (P.outside.toLowercase a)

inductive Sealed where
  | nothing
  | prt (data : SealedData)
  | refreshToken (data : SealedData)

def purgeEntry {X : Type} (now : ℕ) (entry : Option (X × ℕ)) : Option (X × ℕ) :=
  entry.filter (now ≤ ·.2 + 86400)

/-- What a lookup in the refresh cache does to an entry, if there is one. -/
def lookUp {X : Type} : Option ℕ → Option (X × ℕ) → Option (X × ℕ)
  | none, entry => entry
  | some now, entry => purgeEntry now entry

def Fresh {X : Type} (lookup : Option ℕ) (entry : Option (X × ℕ)) : Prop :=
  ∀ now x added, lookup = some now → entry = some (x, added) → now ≤ added + 86400

theorem lookUp_eq_self_iff {X : Type} (lookup : Option ℕ) (entry : Option (X × ℕ)) :
    lookUp lookup entry = entry ↔ Fresh lookup entry := by
  cases lookup with
  | none => exact iff_of_true rfl nofun
  | some now =>
    cases entry with
    | none => exact iff_of_true rfl nofun
    | some entry =>
      obtain ⟨x, added⟩ := entry
      unfold lookUp purgeEntry Fresh
      by_cases hfresh : now ≤ added + 86400
      · refine iff_of_true (by simp [hfresh]) ?_
        rintro _ _ _ ⟨⟩ ⟨⟩
        exact hfresh
      · refine iff_of_false (by simp [hfresh]) ?_
        exact fun h => hfresh (h now x added rfl rfl)

namespace Stores

def after (lookup : Option ℕ) (sealed : Sealed) (stores : Stores) : Stores where
  prt := match sealed with
    | .prt data => some (.sealedData data)
    | _ => stores.prt
  refreshToken := match sealed with
    | .refreshToken data => some (.sealedData data)
    | _ => stores.refreshToken
  cachedPrt := lookUp lookup stores.cachedPrt
  cachedRefreshToken := lookUp lookup stores.cachedRefreshToken

def Has (stores : Stores) : Sealed → Prop
  | .nothing => True
  | .prt data => stores.prt = some (.sealedData data)
  | .refreshToken data => stores.refreshToken = some (.sealedData data)

theorem after_eq_self_iff (lookup : Option ℕ) (sealed : Sealed) (stores : Stores) :
    stores.after lookup sealed = stores ↔ stores.Has sealed ∧ Fresh lookup stores.cachedPrt ∧
      Fresh lookup stores.cachedRefreshToken := by
  rw [Stores.ext_iff, ← lookUp_eq_self_iff, ← lookUp_eq_self_iff]
  cases sealed with
  | nothing => simp [after, Has]
  | prt data => simp [after, Has, eq_comm]
  | refreshToken data => simp [after, Has, eq_comm]

end Stores

/-! ## 2. Where a step goes on -/

namespace Entra

/-- The keystore is as it was, and the refresh cache was looked up as `lookup` says. -/
structure Looked (lookup : Option ℕ) (c c' : Ctx W) : Prop where
  keystore : c'.keystore = c.keystore
  cachedPrt : ∀ key, c'.provider.refreshCache key = lookUp lookup (c.provider.refreshCache key)
  cachedRefreshToken : ∀ key, c'.provider.refreshTokenCache key =
    lookUp lookup (c.provider.refreshTokenCache key)

variable {c c' : Ctx W} {lookup : Option ℕ}

theorem Looked.same (hks : c'.keystore = c.keystore)
    (hprt : c'.provider.refreshCache = c.provider.refreshCache)
    (htoken : c'.provider.refreshTokenCache = c.provider.refreshTokenCache) : Looked none c c' :=
  ⟨hks, fun _ => congrFun hprt _, fun _ => congrFun htoken _⟩

theorem Looked.refl (c : Ctx W) : Looked none c c := .same rfl rfl rfl

theorem Looked.after {c1 : Ctx W} (h : Looked none c c1) (h' : Looked lookup c1 c') :
    Looked lookup c c' where
  keystore := h'.keystore.trans h.keystore
  cachedPrt key := by rw [h'.cachedPrt, h.cachedPrt]; rfl
  cachedRefreshToken key := by rw [h'.cachedRefreshToken, h.cachedRefreshToken]; rfl

theorem Looked.before {lookup : Option ℕ} {c c1 c' : Ctx W} (h : Looked lookup c c1)
    (h' : Looked none c1 c') : Looked lookup c c' where
  keystore := h'.keystore.trans h.keystore
  cachedPrt key := by rw [h'.cachedPrt, h.cachedPrt]; rfl
  cachedRefreshToken key := by rw [h'.cachedRefreshToken, h.cachedRefreshToken]; rfl

/-- Where the body goes on, the stores are as they were. -/
def Spares (p : Fn W ρ α) : Prop :=
  ∀ c, p.Ensures c (fun _ c' => Looked none c c') (fun _ _ => True)

namespace Spares

theorem pure (x : α) : Spares (pure x : Fn W ρ α) := fun c => .refl c

theorem leave (r : ρ) : Spares (Body.leave r : Fn W ρ α) := fun _ => trivial

theorem bind {p : Fn W ρ α} {f : α → Fn W ρ β} (hp : Spares p) (hf : ∀ x, Spares (f x)) :
    Spares (p >>= f) := fun c =>
  (hp c).bind fun x c1 h => (hf x c1).mono (fun _ _ h' => h.after h') fun _ _ h' => h'

theorem calm {p : Fn W ρ α} (h : Body.Stays Calm p) : Spares p := fun c =>
  (h c).mono (fun _ _ h' => .same h'.keystore h'.refreshCache h'.refreshTokenCache)
    fun _ _ h' => h'.elim

theorem get : Spares (Body.get : Fn W ρ (Ctx W)) := fun c => .refl c

theorem ask (f : Ext W α) : Spares (ask f : Fn W ρ α) := fun _ => .same rfl rfl rfl

theorem log (e : Event) : Spares (log e : Fn W ρ Unit) := fun _ => .same rfl rfl rfl

theorem resetBadPinCount (a : String) :
    Spares (HimmelblauProvider.resetBadPinCount a : Fn W ρ Unit) := fun _ => .same rfl rfl rfl

theorem of_stops {p : Fn W StepAnswer α} (h : Stops (fun _ => True) True True p) : Spares p :=
  fun c => (h c).mono (fun _ _ h' => h'.elim) fun _ _ _ => trivial

theorem of_denies {P : HimmelblauProvider W} {p : Fn W StepAnswer α} (h : P.Denies p) :
    Spares p := of_stops h.stops

theorem andThen {p : Fn W ρ α} {f : α → Fn W ρ β}
    (hp : p.Ensures c (fun _ c' => Looked lookup c c') fun _ _ => True) (hf : ∀ x, Spares (f x)) :
    (p >>= f).Ensures c (fun _ c' => Looked lookup c c') fun _ _ => True :=
  hp.bind fun x c1 h => (hf x c1).mono (fun _ _ h' => h.before h') fun _ _ h' => h'

end Spares

namespace HimmelblauProvider

variable (P : HimmelblauProvider W)

/-! ## 3. The token of the Entra provider -/

variable {a cred service : String} {k : LoadableMsHelloKey} {keyType : KeyType}
  {oldToken : UserToken} {token : UnixUserToken} {req : PamAuthRequest} {sealed : Sealed}

theorem tryPin_spares (pin : PinValue) : Spares (P.tryPin a k pin : Fn W ρ _) :=
  .bind (.ask _) fun _ => .bind (.log _) fun _ => .pure _

theorem askToken_spares (request : TokenRequest) (f : Ext W (Except MsalError UnixUserToken)) :
    Spares (askToken a request f : Fn W ρ _) :=
  .bind (.ask _) fun _ => .bind (.log _) fun _ => .pure _

theorem netDownHelloFallback_spares :
    Spares (P.netDownHelloFallback a cred oldToken : Fn W StepAnswer α) :=
  .bind (.calm P.netDown_calm) fun _ => .of_stops (P.helloTotpOrSuccess_stops _ trivial)

theorem dropAndReauth_spares (tag : String) :
    Spares (P.dropAndReauth a service cred tag : Fn W StepAnswer α) :=
  .of_stops (.bind (.of_quiet (.delete _)) fun _ => .bind (.of_quiet (.resetBadPinCount _)) fun _ =>
    (P.requestReauth_denies _).stops)

theorem retryHelloToken_spares (scopes : List String) (clientId : Option String) :
    Spares (P.retryHelloToken a k scopes clientId cred) := by
  apply Spares.bind (askToken_spares _ _)
  intro r
  split
  · exact .bind (.resetBadPinCount _) fun _ => .pure _
  · exact .of_stops P.helloTokenDenied_stops

theorem helloTokenError_spares (clientId : Option String) (e : MsalError) :
    Spares (P.helloTokenError a k clientId cred e) := by
  unfold helloTokenError
  split
  · split
    · exact P.retryHelloToken_spares _ _
    · split
      · exact P.retryHelloToken_spares _ _
      · exact .of_denies (P.checkNewDeviceEnrollmentRequired_denies _)
  · split
    · exact P.retryHelloToken_spares _ _
    · exact .of_stops P.helloTokenDenied_stops
  · exact .of_stops P.helloTokenDenied_stops

theorem acquireHelloToken_spares : Spares (P.acquireHelloToken a oldToken k cred) := by
  apply Spares.bind (askToken_spares _ _)
  intro r
  split
  · exact .bind (.resetBadPinCount _) fun _ => .pure _
  · exact P.netDownHelloFallback_spares
  · split
    · exact .of_stops (P.helloTotpOrSuccess_stops _ trivial)
    · exact P.helloTokenError_spares _ _

theorem renewPrt_spares (prt : SealedData) : Spares (P.renewPrt a prt token : Fn W ρ _) := by
  apply Spares.bind (.ask _)
  intro renewed
  apply Spares.bind (.resetBadPinCount _)
  intro _
  split
  · exact .pure _
  · exact .pure _

theorem exchangePrt_spares (prt : SealedData) :
    Spares (P.exchangePrt a service oldToken cred prt) := by
  apply Spares.bind (askToken_spares _ _)
  intro r
  split
  · exact P.renewPrt_spares _
  · exact P.netDownHelloFallback_spares
  · split
    · exact .of_stops (P.helloTotpOrSuccess_stops _ trivial)
    · unfold prtError
      split
      · split
        · apply Spares.bind (askToken_spares _ _)
          intro r
          split
          · exact P.renewPrt_spares _
          · exact .of_stops (.deny _)
        · exact .of_denies (P.checkNewDeviceEnrollmentRequired_denies _)
      · exact P.dropAndReauth_spares _

theorem exchangeRefreshToken_spares (refreshToken : String) :
    Spares (P.exchangeRefreshToken a service oldToken cred refreshToken) := by
  apply Spares.bind (.ask _)
  intro client
  split
  · exact .of_stops (.deny _)
  · apply Spares.bind (askToken_spares _ _)
    intro r
    split
    · exact .bind (.resetBadPinCount _) fun _ => .pure _
    · exact P.netDownHelloFallback_spares
    · split
      · exact .of_stops (P.helloTotpOrSuccess_stops _ trivial)
      · exact P.dropAndReauth_spares _

/-- When the refresh cache is looked up for lack of a stored refresh token: there is none, or it
    cannot be unsealed. -/
def refreshTokenLookup (k : LoadableMsHelloKey) (cred : String) (stored : Option SealedData)
    (w : W) : Option ℕ :=
  match stored with
  | none => some (P.outside.now w).1
  | some sealedRefreshToken =>
    match P.outside.pinValueNew cred with
    | none => none
    | some pin =>
      let loaded := P.outside.msHelloKeyLoad k pin w
      match loaded.1 with
      | none => none
      | some winHelloStorageKey =>
        let unsealed := P.outside.unsealData winHelloStorageKey sealedRefreshToken loaded.2
        match unsealed.1 with
        | none => some (P.outside.now unsealed.2).1
        | some _ => none

theorem refreshToken_looked : (P.refreshToken a : Fn W ρ _).Ensures c
      (fun _ c' => Looked (some (P.outside.now c.provider.world).1) c c') (fun _ _ => False) := by
  unfold refreshToken purge
  simp only [Body.ensures_bind, ask, Body.ensures_call, Body.ensures_modify, Body.ensures_get]
  split
  · exact ⟨rfl, fun _ => rfl, fun _ => rfl⟩
  · split
    · exact ⟨rfl, fun _ => rfl, fun _ => rfl⟩
    · exact ⟨rfl, fun _ => rfl, fun _ => rfl⟩

theorem refreshTokenOk_looked : (P.refreshTokenOk a : Fn W ρ _).Ensures c
      (fun _ c' => Looked (some (P.outside.now c.provider.world).1) c c') (fun _ _ => True) := by
  apply Spares.andThen
  · exact P.refreshToken_looked.mono (fun _ _ h => h) fun _ _ h => h.elim
  · intro r
    split
    · exact .pure _
    · exact .pure _

theorem unsealRefreshToken_looked (stored : SealedData) :
    (P.unsealRefreshToken a k cred stored).Ensures c
      (fun _ c' => Looked (P.refreshTokenLookup k cred (some stored) c.provider.world) c c')
      (fun _ _ => True) := by
  unfold unsealRefreshToken refreshTokenLookup
  cases P.outside.pinValueNew cred with
  | none => trivial
  | some pin =>
    simp only [Body.ensures_bind, ask, Body.ensures_call]
    generalize P.outside.msHelloKeyLoad k pin c.provider.world = loaded
    rcases loaded with ⟨_ | key, w1⟩
    · trivial
    · simp only [Body.ensures_bind, Body.ensures_call]
      generalize P.outside.unsealData key stored w1 = unsealed
      rcases unsealed with ⟨_ | ⟨_ | text⟩, w2⟩
      · have hsame : Looked none c { c with provider.world := w2 } := .same rfl rfl rfl
        exact P.refreshTokenOk_looked.mono (fun _ _ h => hsame.after h) fun _ _ h => h
      · trivial
      · exact .same rfl rfl rfl

/-- When the refresh cache is looked up for a token: for a decoupled key without a stored PRT. -/
def tokenLookup (a : String) (k : LoadableMsHelloKey) (keyType : KeyType) (cred : String)
    (c : Ctx W) : Option ℕ :=
  match keyType, sealedDataOf (c.keystore (P.fetchHelloPrtKeyTag a)) with
  | .decoupled, none => P.refreshTokenLookup k cred
      (sealedDataOf (c.keystore (P.fetchHelloRefreshTokenKeyTag a))) c.provider.world
  | _, _ => none

theorem cachedTokens_looked : (P.cachedTokens a k cred).Ensures c
      (fun _ c' => Looked (P.tokenLookup a k .decoupled cred c) c c') (fun _ _ => True) := by
  unfold cachedTokens tokenLookup
  simp only [Body.ensures_bind, getKeystore, Body.ensures_get, Body.ensures_pure]
  cases sealedDataOf (c.keystore (P.fetchHelloPrtKeyTag a)) with
  | some helloPrt =>
    refine Spares.bind (.ask (P.outside.unsealUserPrtWithHelloKey helloPrt k cred))
      (fun r => ?_) c
    split
    · exact .pure _
    · exact .pure _
  | none =>
    cases sealedDataOf (c.keystore (P.fetchHelloRefreshTokenKeyTag a)) with
    | some stored => exact P.unsealRefreshToken_looked stored
    | none => exact P.refreshTokenOk_looked

theorem acquireToken_looked : (P.acquireToken a service oldToken k keyType cred).Ensures c
      (fun _ c' => Looked (P.tokenLookup a k keyType cred c) c c') (fun _ _ => True) := by
  cases keyType with
  | hello => exact P.acquireHelloToken_spares c
  | decoupled =>
    apply Spares.andThen P.cachedTokens_looked
    intro entry
    split
    · exact P.exchangePrt_spares _
    · exact P.exchangeRefreshToken_spares _
    · exact .of_denies (P.requestReauth_denies _)

/-! ## 4. Sealing, enrolment and validation -/

theorem looked_stores (h : Looked lookup c c') (a : String) : P.stores a c'.keystore c'.provider =
      (P.stores a c.keystore c.provider).after lookup .nothing := by
  unfold HimmelblauProvider.stores Stores.after
  rw [h.keystore, h.cachedPrt, h.cachedRefreshToken]

theorem stores_prt (ks : KeyStore) (p : ProviderState W) (data : SealedData) :
    P.stores a (Function.update ks (P.fetchHelloPrtKeyTag a) (some (.sealedData data))) p =
      (P.stores a ks p).after none (.prt data) := by
  have htags : P.fetchHelloRefreshTokenKeyTag a ≠ P.fetchHelloPrtKeyTag a :=
    P.tag_injective_right.ne (show HelloTag.refreshToken ≠ .prt by decide)
  simp [HimmelblauProvider.stores, Stores.after, lookUp, htags]

theorem stores_refreshToken (ks : KeyStore) (p : ProviderState W) (data : SealedData) :
    P.stores a (Function.update ks (P.fetchHelloRefreshTokenKeyTag a) (some (.sealedData data))) p =
      (P.stores a ks p).after none (.refreshToken data) := by
  have htags : P.fetchHelloPrtKeyTag a ≠ P.fetchHelloRefreshTokenKeyTag a :=
    P.tag_injective_right.ne (show HelloTag.prt ≠ .refreshToken by decide)
  simp [HimmelblauProvider.stores, Stores.after, lookUp, htags]

/-- What `sealToken` seals: the PRT, or the refresh token of a token without one. -/
def sealedOf (token : UnixUserToken) (k : LoadableMsHelloKey) (cred : String) (w : W) : Sealed :=
  match token.prt with
  | some prt =>
    match (P.outside.sealUserPrtWithHelloKey prt k cred w).1 with
    | .ok helloPrt => .prt helloPrt
    | .error _ => .nothing
  | none =>
    match P.outside.pinValueNew cred with
    | none => .nothing
    | some pin =>
      let loaded := P.outside.msHelloKeyLoad k pin w
      match loaded.1 with
      | none => .nothing
      | some winHelloStorageKey =>
        match (P.outside.sealData winHelloStorageKey token.refreshToken loaded.2).1 with
        | some sealedRt => .refreshToken sealedRt
        | none => .nothing

theorem sealToken_stores (a : String) (token : UnixUserToken) (k : LoadableMsHelloKey)
    (cred : String) (r : ρ) (c : Ctx W) :
    (P.sealToken a token k cred (Body.leave r)).Ensures c
      (fun _ c' => P.stores a c'.keystore c'.provider =
        (P.stores a c.keystore c.provider).after none (P.sealedOf token k cred c.provider.world))
      (fun _ _ => True) := by
  unfold sealToken sealedOf
  cases token.prt with
  | some prt =>
    simp only [Body.ensures_bind, ask, Body.ensures_call]
    generalize P.outside.sealUserPrtWithHelloKey prt k cred c.provider.world = r
    rcases r with ⟨e | helloPrt, w⟩
    · rfl
    · exact P.stores_prt _ _ _
  | none =>
    unfold sealRefreshToken
    cases P.outside.pinValueNew cred with
    | none => trivial
    | some pin =>
      simp only [Body.ensures_bind, ask, Body.ensures_call]
      generalize P.outside.msHelloKeyLoad k pin c.provider.world = loaded
      rcases loaded with ⟨_ | key, w1⟩
      · trivial
      · simp only [Body.ensures_call]
        generalize P.outside.sealData key token.refreshToken w1 = r
        rcases r with ⟨_ | sealedRt, w2⟩
        · trivial
        · exact P.stores_refreshToken _ _ _

def KeepsStores (a : String) (p : Fn W ρ α) : Prop :=
  ∀ c, p.Ensures c
    (fun _ c' => P.stores a c'.keystore c'.provider = P.stores a c.keystore c.provider)
    (fun _ _ => True)

variable {P}

namespace KeepsStores

theorem of_spares {p : Fn W ρ α} (h : Spares p) : P.KeepsStores a p := fun c =>
  (h c).mono (fun _ _ h' => P.looked_stores h' a) fun _ _ h' => h'

theorem bind {a : String} {p : Fn W ρ α} {f : α → Fn W ρ β} (hp : P.KeepsStores a p)
    (hf : ∀ x, P.KeepsStores a (f x)) : P.KeepsStores a (p >>= f) := fun c =>
  (hp c).bind fun x c1 h => (hf x c1).mono (fun _ _ h' => h'.trans h) fun _ _ h' => h'

theorem modify {u : Ctx W → Ctx W}
    (h : ∀ c, P.stores a (u c).keystore (u c).provider = P.stores a c.keystore c.provider) :
    P.KeepsStores a (Body.modify u : Fn W ρ Unit) := h

theorem insert {tag : String} (key : StoredKey) (hprt : P.fetchHelloPrtKeyTag a ≠ tag)
    (hrt : P.fetchHelloRefreshTokenKeyTag a ≠ tag) :
    P.KeepsStores a (insertTaggedHsmKey tag key : Fn W ρ Unit) := fun c => by
  simp [insertTaggedHsmKey, HimmelblauProvider.stores, hprt, hrt]

end KeepsStores

theorem ensureIntuneEnrolled_stores (a : String) (token : UnixUserToken) :
    P.KeepsStores a (P.ensureIntuneEnrolled token) := by
  apply KeepsStores.bind (.of_spares .get)
  intro c
  split
  · apply KeepsStores.bind (.of_spares (.calm (P.intuneEnrollDevice_calm _)))
    intro r
    split
    · exact .of_spares (.pure _)
    · apply KeepsStores.bind
      · exact .modify fun _ => rfl
      · intro _
        apply KeepsStores.bind (.of_spares (.ask _))
        intro written
        split
        · apply KeepsStores.insert
          · exact device_tag_ne a .prt (by decide)
          · exact device_tag_ne a .refreshToken (by decide)
        · exact .of_spares (.of_stops (.deny _))
  · exact .of_spares (.pure _)

theorem tokenValidate_stores (a : String) (token : UnixUserToken) (c : Ctx W) :
    (P.tokenValidate a token none : Fn W ρ _).Ensures c
      (fun r c' => ∀ msg, r = .ok (.denied msg) →
        P.stores a c'.keystore c'.provider = P.stores a c.keystore c.provider)
      (fun _ _ => True) := by
  unfold tokenValidate
  split
  · exact nofun
  · exact nofun
  · rename_i spn haccess hspn
    apply (Spares.calm (P.matchesRequestedUser_calm spn) c).bind
    intro r c1 hlooked
    split
    · exact nofun
    · exact fun _ _ => P.looked_stores hlooked a
    · apply (Body.ensures_true _).bind
      intro _ c2 _
      apply (Body.ensures_true _).bind
      intro r c3 _
      split
      · exact nofun
      · apply (Body.ensures_true _).bind
        exact fun _ _ _ _ h => nomatch h

/-! ## 5. A Hello step whose token is rejected -/

variable (P)

/-- The PIN is right, and the identity provider returns a token; the refresh cache was looked up
    as the second index says. -/
inductive Returns (a service : String) (oldToken : UserToken) (k : LoadableMsHelloKey)
    (keyType : KeyType) (cred : String) (c : Ctx W) : UnixUserToken → Option ℕ → Ctx W → Prop
  | intro {pin : PinValue} {key : StorageKey} {c1 c' : Ctx W} {token : UnixUserToken}
      (hpin : P.outside.pinValueNew cred = some pin)
      (htry : (P.tryPin a k pin : Fn W StepAnswer _) c = (.ok (some key), c1))
      (htoken : P.acquireToken a service oldToken k keyType cred c1 = (.ok token, c')) :
      Returns a service oldToken k keyType cred c token (P.tokenLookup a k keyType cred c1) c'

/-- `auth_and_validate_hello_key` comes to `token_validate` with a token, and the token is
    rejected as another user's. -/
inductive Rejects (a service : String) (oldToken : UserToken) (k : LoadableMsHelloKey)
    (keyType : KeyType) (cred : String) (c : Ctx W) : Option ℕ → Sealed → Prop
  | intro {token : UnixUserToken} {lookup : Option ℕ} {c1 c2 c3 c4 : Ctx W} {msg : String}
      (hreturns : P.Returns a service oldToken k keyType cred c token lookup c1)
      (hseal : (P.sealToken a token k cred (Body.leave (.error .tpm)) : Fn W StepAnswer Unit) c1 =
        (.ok (), c2))
      (henrol : P.ensureIntuneEnrolled token c2 = (.ok (), c3))
      (hdenied : (P.tokenValidate a token none : Fn W StepAnswer _) c3 =
        (.ok (.ok (.denied msg)), c4)) :
      Rejects a service oldToken k keyType cred c lookup
        (P.sealedOf token k cred c1.provider.world)

variable {P}

theorem Returns.stores
    (h : P.Returns a service oldToken k keyType cred c token lookup c') :
    P.stores a c'.keystore c'.provider =
      (P.stores a c.keystore c.provider).after lookup .nothing := by
  cases h with
  | intro hpin htry htoken =>
    have hsame := (P.tryPin_spares _ c).goesOn htry
    exact P.looked_stores (hsame.after (P.acquireToken_looked.goesOn htoken)) a

theorem Rejects.run (h : P.Rejects a service oldToken k keyType cred c lookup sealed) :
    ∃ msg c', (P.authAndValidateHelloKey a service oldToken k keyType cred).run c =
        (.ok (.denied msg, .none), c') ∧
      P.stores a c'.keystore c'.provider =
        (P.stores a c.keystore c.provider).after lookup sealed := by
  cases h with
  | @intro token _ c1 c2 c3 c4 msg hreturns hseal henrol hdenied =>
    refine ⟨msg, c4, ?_, ?_⟩
    · cases hreturns with
      | intro hpin htry htoken =>
        unfold authAndValidateHelloKey
        rw [hpin]
        dsimp only
        rw [Body.run_bind htry]
        dsimp only
        rw [Body.run_bind htoken, Body.run_bind hseal, Body.run_bind henrol]
        unfold finishHello
        rw [Body.run_bind hdenied]
        rfl
    · have hvalidate := (tokenValidate_stores a token c3).goesOn hdenied msg rfl
      have henrolled := (ensureIntuneEnrolled_stores a token c2).goesOn henrol
      have hsealed := (P.sealToken_stores a token k cred _ c1).goesOn hseal
      rw [hvalidate, henrolled, hsealed, hreturns.stores]
      rfl

variable (P)

/-- The step with this request runs `auth_and_validate_hello_key`: on the PIN, or on the PIN that
    is being set up, after its key was stored. -/
inductive HelloStep (a : String) (req : PamAuthRequest) (c : Ctx W) :
    LoadableMsHelloKey → KeyType → String → Ctx W → Prop
  | pin {cred : String} {k : LoadableMsHelloKey} {keyType : KeyType} {c' : Ctx W}
      (hinit : (P.delayedInit : Fn W StepAnswer Bool) c = (.ok true, c')) (hreq : req = .pin cred)
      (hkey : P.fetchHelloKey a c'.keystore = .ok (k, keyType)) :
      HelloStep a req c k keyType cred c'
  | setupPin {token : UnixUserToken} {pin : String} {k : LoadableMsHelloKey} {c1 c2 c' : Ctx W}
      (hinit : (P.delayedInit : Fn W StepAnswer Bool) c = (.ok true, c1))
      (hreq : req = .setupPin pin) (hhandler : c1.credHandler = .setupPin (some token))
      (hkey : P.newHelloKey token (token.amrNgcmfa.getD false) pin c1 = (.ok k, c2))
      (hstore : (P.storeHelloKey a (token.amrNgcmfa.getD false) k : Fn W StepAnswer Unit) c2 =
        (.ok (), c')) :
      HelloStep a req c k (if token.amrNgcmfa.getD false then .hello else .decoupled) pin c'

variable {P}

theorem newHelloKey_spares (amrNgcmfa : Bool) (pin : String) :
    Spares (P.newHelloKey token amrNgcmfa pin) := by
  unfold newHelloKey
  split
  · apply Spares.bind (.ask _)
    intro r
    unfold netDownCheck
    split
    · exact .pure _
    · exact .of_denies P.netDown_denies
    · exact .of_denies (P.checkNewDeviceEnrollmentRequired_denies _)
    · exact .leave _
  · apply Spares.bind (.calm (createDecoupledHelloKey_calm _ pin))
    intro key
    split
    · exact .leave _
    · exact .pure _

theorem storeHelloKey_stores (amrNgcmfa : Bool) :
    P.KeepsStores a (P.storeHelloKey a amrNgcmfa k : Fn W ρ Unit) := by
  have htag : ∃ t : HelloTag, t ≠ .prt ∧ t ≠ .refreshToken ∧
      P.fetchHelloKeyTag a amrNgcmfa = P.tag a t := by
    cases amrNgcmfa with
    | true => exact ⟨.hello, by decide, by decide, rfl⟩
    | false => exact ⟨.decoupled, by decide, by decide, rfl⟩
  obtain ⟨t, hprt, hrt, htag⟩ := htag
  apply KeepsStores.bind
  · rw [htag]
    exact .insert _ (P.tag_injective_right.ne hprt.symm) (P.tag_injective_right.ne hrt.symm)
  · exact fun _ => .of_spares (.log _)

theorem HelloStep.run (h : P.HelloStep a req c k keyType cred c') (service : String)
    (oldToken : UserToken) (noHelloPin : Bool) :
    (P.unixUserOnlineAuthStep a oldToken service noHelloPin req).run c =
        (P.authAndValidateHelloKey a service oldToken k keyType cred).run c' ∧
      P.stores a c'.keystore c'.provider = P.stores a c.keystore c.provider := by
  unfold unixUserOnlineAuthStep
  cases h with
  | pin hinit hreq hkey =>
    subst hreq
    refine ⟨?_, P.looked_stores ((Spares.calm (P.delayedInit_calm) c).goesOn hinit) a⟩
    rw [Body.run_bind hinit, if_pos rfl, Body.run_bind (rfl : Body.get _ = _)]
    have hstep : ∀ h, P.stepMatch a oldToken service noHelloPin h (.pin cred) =
        P.pinStep a service oldToken cred := by
      intro h
      cases h <;> rfl
    dsimp only
    rw [hstep]
    change (Body.orLeave (P.fetchHelloKey a _) Except.error >>= fun key =>
      P.authAndValidateHelloKey a service oldToken key.1 key.2 cred : Fn W StepAnswer _).run _ = _
    rw [hkey]
    rfl
  | setupPin hinit hreq hhandler hkey hstore =>
    subst hreq
    constructor
    · rw [Body.run_bind hinit, if_pos rfl, Body.run_bind (rfl : Body.get _ = _)]
      dsimp only
      rw [hhandler]
      change (P.setupPinStep a service oldToken (some _) _).run _ = _
      unfold setupPinStep
      dsimp only
      rw [Body.run_bind hkey, Body.run_bind hstore]
    · rw [(storeHelloKey_stores _ _).goesOn hstore,
        P.looked_stores ((newHelloKey_spares _ _ _).goesOn hkey) a,
        P.looked_stores ((Spares.calm (P.delayedInit_calm) c).goesOn hinit) a]
      rfl

end HimmelblauProvider

end Entra

namespace Oidc.OidcProvider

open HimmelblauProvider

variable (O : OidcProvider W)

/-! ## 6. The same of the OpenID Connect provider -/

variable {c c' : Ctx W} {a cred : String} {k : LoadableMsHelloKey} {keyType : KeyType}
  {oldToken : UserToken} {req : PamAuthRequest} {lookup : Option ℕ} {sealed : Sealed}

theorem memCacheRefreshToken_looked : (O.memCacheRefreshToken a).Ensures c
      (fun _ c' => Looked (some (O.outside.now c.provider.world).1) c c') (fun _ _ => True) := by
  apply Spares.andThen
  · exact O.refreshToken_looked.mono (fun _ _ h => h) fun _ _ h => h.elim
  · intro r
    split
    · exact .pure _
    · exact .of_stops (.deny _)
    · exact .of_stops (.deny _)

theorem cachedRefreshToken_looked : (O.cachedRefreshToken a k cred).Ensures c
      (fun _ c' => Looked (O.refreshTokenLookup k cred
        (sealedDataOf (c.keystore (O.fetchHelloRefreshTokenKeyTag a))) c.provider.world) c c')
      (fun _ _ => True) := by
  unfold cachedRefreshToken refreshTokenLookup
  simp only [Body.ensures_bind, getKeystore, Body.ensures_get, Body.ensures_pure]
  cases sealedDataOf (c.keystore (O.fetchHelloRefreshTokenKeyTag a)) with
  | none => exact O.memCacheRefreshToken_looked
  | some stored =>
    cases O.outside.pinValueNew cred with
    | none => trivial
    | some pin =>
      simp only [Body.ensures_bind, ask, Body.ensures_call]
      generalize O.outside.msHelloKeyLoad k pin c.provider.world = loaded
      rcases loaded with ⟨_ | key, w1⟩
      · trivial
      · simp only [Body.ensures_bind, Body.ensures_call]
        generalize O.outside.unsealData key stored w1 = unsealed
        rcases unsealed with ⟨_ | ⟨_ | text⟩, w2⟩
        · have hsame : Looked none c { c with provider.world := w2 } := .same rfl rfl rfl
          exact O.memCacheRefreshToken_looked.mono (fun _ _ h => hsame.after h) fun _ _ h => h
        · trivial
        · exact .same rfl rfl rfl

theorem exchangeRefreshToken_spares (refreshToken : String) :
    Spares (O.exchangeRefreshToken a oldToken cred refreshToken) := by
  apply Spares.bind (.calm (O.acquireTokenByRefreshToken_calm _ _))
  intro answer
  apply Spares.bind (.log _)
  intro _
  split
  · exact .bind (.resetBadPinCount _) fun _ => .pure _
  · exact O.netDownHelloFallback_spares
  · exact .of_stops (.bind (.of_quiet (.delete _)) fun _ => .bind (.of_quiet (.delete _)) fun _ =>
      .bind (.of_quiet (.resetBadPinCount _)) fun _ => .deny _)

theorem acquireToken_looked : (O.acquireToken a oldToken k keyType cred).Ensures c
      (fun _ c' => Looked (O.refreshTokenLookup k cred
        (sealedDataOf (c.keystore (O.fetchHelloRefreshTokenKeyTag a))) c.provider.world) c c')
      (fun _ _ => True) := by
  cases keyType with
  | hello => trivial
  | decoupled =>
    apply Spares.andThen O.cachedRefreshToken_looked
    exact fun _ => O.exchangeRefreshToken_spares _

/-- What `sealRefreshTokenOf` seals: the refresh token, after its user was looked up. -/
def sealedOf (token : OidcTokenResponse) (k : LoadableMsHelloKey) (pin : PinValue) (c : Ctx W) :
    Sealed :=
  let loaded := O.outside.msHelloKeyLoad k pin c.provider.world
  match loaded.1, token.refreshToken, O.tenantId with
  | some winHelloStorageKey, some refreshToken, some tenantId =>
    let looked := (O.userTokenFromOidc token tenantId : Fn W StepAnswer _)
      { c with provider.world := loaded.2 }
    match (O.outside.sealData winHelloStorageKey refreshToken looked.2.provider.world).1 with
    | some sealedRt => .refreshToken sealedRt
    | none => .nothing
  | _, _, _ => .nothing

theorem sealRefreshTokenOf_stores (token : OidcTokenResponse) (pin : PinValue) :
    (O.sealRefreshTokenOf a token k pin).Ensures c
      (fun _ c' => O.stores a c'.keystore c'.provider =
        (O.stores a c.keystore c.provider).after none (O.sealedOf token k pin c))
      (fun _ _ => True) := by
  unfold sealRefreshTokenOf sealedOf
  apply (Spares.ask _ c).ran.bind
  rintro loaded c1 ⟨hload, h1⟩
  obtain ⟨rfl, rfl⟩ : loaded = (O.outside.msHelloKeyLoad k pin c.provider.world).1 ∧
      c1 = { c with provider.world := (O.outside.msHelloKeyLoad k pin c.provider.world).2 } := by
    cases hload
    exact ⟨rfl, rfl⟩
  dsimp only at h1 ⊢
  rcases (O.outside.msHelloKeyLoad k pin c.provider.world).1 with _ | key
  · trivial
  · rcases token.refreshToken with _ | refreshToken
    · trivial
    · rcases O.tenantId with _ | tenantId
      · trivial
      · apply (Spares.calm (O.userTokenFromOidc_calm token tenantId) _).ran.bind
        rintro user c2 ⟨huser, h2⟩
        rcases user with e | user
        · trivial
        · have hstores := O.looked_stores (h1.after h2) a
          dsimp only
          rw [huser]
          apply (Body.ensures_bind _ _).mpr
          change Body.Ensures (ask _ >>= _) c2 _ _
          simp only [Body.ensures_bind, ask, Body.ensures_call]
          rcases (O.outside.sealData key refreshToken c2.provider.world).1 with _ | sealedRt
          · trivial
          · exact (O.stores_refreshToken _ _ _).trans
              (congrArg (Stores.after none (.refreshToken sealedRt)) hstores)

theorem tokenValidate_stores (a : String) (token : OidcTokenResponse) (c : Ctx W) :
    (O.tokenValidate a token : Fn W ρ _).Ensures c
      (fun r c' => ∀ msg, r = .ok (.denied msg) →
        O.stores a c'.keystore c'.provider = O.stores a c.keystore c.provider)
      (fun _ _ => True) := by
  unfold tokenValidate
  split
  · exact nofun
  · apply (Spares.calm (O.userTokenFromOidc_calm token _) c).bind
    intro r c1 hlooked
    split
    · exact nofun
    · split
      · exact fun _ _ => O.looked_stores hlooked a
      · split
        · apply (Body.ensures_true _).bind
          intro _ c2 _
          apply (Body.ensures_true _).bind
          exact fun _ _ _ _ h => nomatch h
        · apply (Body.ensures_true _).bind
          exact fun _ _ _ _ h => nomatch h

/-- As for the Entra provider: the PIN is right, the issuer returns a token, its credential is
    sealed, and it is rejected as another user's. -/
inductive Rejects (a : String) (oldToken : UserToken) (k : LoadableMsHelloKey)
    (keyType : KeyType) (cred : String) (c : Ctx W) : Option ℕ → Sealed → Prop
  | intro {pin : PinValue} {key : StorageKey} {token : OidcTokenResponse} {c1 c2 c3 c4 : Ctx W}
      {msg : String} (hpin : O.outside.pinValueNew cred = some pin)
      (htry : (O.tryPin a k pin : Fn W StepAnswer _) c = (.ok (some key), c1))
      (htoken : O.acquireToken a oldToken k keyType cred c1 = (.ok token, c2))
      (hseal : O.sealRefreshTokenOf a token k pin c2 = (.ok (), c3))
      (hdenied : (O.tokenValidate a token : Fn W StepAnswer _) c3 = (.ok (.ok (.denied msg)), c4)) :
      Rejects a oldToken k keyType cred c
        (O.refreshTokenLookup k cred
          (sealedDataOf (c1.keystore (O.fetchHelloRefreshTokenKeyTag a))) c1.provider.world)
        (O.sealedOf token k pin c2)

variable {O}

theorem Rejects.run (h : O.Rejects a oldToken k keyType cred c lookup sealed) :
    ∃ msg c', (O.authAndValidateHelloKey a oldToken k keyType cred).run c =
        (.ok (.denied msg, .none), c') ∧
      O.stores a c'.keystore c'.provider =
        (O.stores a c.keystore c.provider).after lookup sealed := by
  cases h with
  | @intro pin _ token c1 c2 c3 c4 msg hpin htry htoken hseal hdenied =>
    refine ⟨msg, c4, ?_, ?_⟩
    · unfold authAndValidateHelloKey
      rw [hpin]
      dsimp only
      rw [Body.run_bind htry]
      dsimp only
      rw [Body.run_bind htoken, Body.run_bind hseal]
      unfold finishHello
      rw [Body.run_bind hdenied]
      rfl
    · have hsame := (O.tryPin_spares pin c).goesOn htry
      have hreturned := O.acquireToken_looked.goesOn htoken
      have hsealed := (O.sealRefreshTokenOf_stores token pin).goesOn hseal
      rw [(O.tokenValidate_stores a token c3).goesOn hdenied msg rfl, hsealed,
        O.looked_stores (hsame.after hreturned) a]
      rfl

variable (O)

inductive HelloStep (a : String) (req : PamAuthRequest) (c : Ctx W) :
    LoadableMsHelloKey → KeyType → String → Ctx W → Prop
  | pin {cred : String} {k : LoadableMsHelloKey} {keyType : KeyType} {c' : Ctx W}
      (hinit : (O.delayedInit : Fn W StepAnswer Bool) c = (.ok true, c')) (hreq : req = .pin cred)
      (hkey : O.fetchHelloKey a c'.keystore = .ok (k, keyType)) :
      HelloStep a req c k keyType cred c'
  | setupPin {token : Option UnixUserToken} {pin : String} {k : LoadableMsHelloKey}
      {c1 c2 c' : Ctx W} (hinit : (O.delayedInit : Fn W StepAnswer Bool) c = (.ok true, c1))
      (hreq : req = .setupPin pin) (hhandler : c1.credHandler = .setupPin token)
      (hkey : (O.createDecoupledHelloKey pin : Fn W StepAnswer _) c1 = (.ok (some k), c2))
      (hstore : (O.storeHelloKey a false k : Fn W StepAnswer Unit) c2 = (.ok (), c')) :
      HelloStep a req c k .decoupled pin c'

variable {O}

theorem HelloStep.run (h : O.HelloStep a req c k keyType cred c') (oldToken : UserToken)
    (noHelloPin : Bool) :
    (O.unixUserOnlineAuthStep a oldToken noHelloPin req).run c =
        (O.authAndValidateHelloKey a oldToken k keyType cred).run c' ∧
      O.stores a c'.keystore c'.provider = O.stores a c.keystore c.provider := by
  unfold unixUserOnlineAuthStep
  cases h with
  | pin hinit hreq hkey =>
    subst hreq
    refine ⟨?_, O.looked_stores ((Spares.calm (O.delayedInit_calm) c).goesOn hinit) a⟩
    rw [Body.run_bind hinit, if_pos rfl, Body.run_bind (rfl : Body.get _ = _)]
    have hstep : ∀ h, O.stepMatch a oldToken noHelloPin h (.pin cred) =
        O.pinStep a oldToken cred := by
      intro h
      cases h <;> rfl
    dsimp only
    rw [hstep]
    change (Body.orLeave (O.fetchHelloKey a _) Except.error >>= fun key =>
      O.authAndValidateHelloKey a oldToken key.1 key.2 cred : Fn W StepAnswer _).run _ = _
    rw [hkey]
    rfl
  | setupPin hinit hreq hhandler hkey hstore =>
    subst hreq
    constructor
    · rw [Body.run_bind hinit, if_pos rfl, Body.run_bind (rfl : Body.get _ = _)]
      dsimp only
      rw [hhandler]
      change (O.setupPinStep a oldToken _).run _ = _
      unfold setupPinStep
      rw [Body.run_bind hkey]
      dsimp only
      rw [Body.run_bind hstore]
    · rw [(storeHelloKey_stores _ _).goesOn hstore,
        O.looked_stores ((Spares.calm (createDecoupledHelloKey_calm _ _) _).goesOn hkey) a,
        O.looked_stores ((Spares.calm (O.delayedInit_calm) c).goesOn hinit) a]
      rfl

end Oidc.OidcProvider

/-! ## 7. Sessions -/

/-- The online step is a Hello step whose token is rejected, with either provider.  The refresh
    cache was looked up, and a credential sealed, as the last two indices say. -/
inductive Rejected (a service : String) (oldToken : UserToken) (req : PamAuthRequest) (c : Ctx W) :
    IdProvider (ProviderState W) → HimmelblauProvider W → Option ℕ → Sealed → Prop
  | entra {P : HimmelblauProvider W} {k : LoadableMsHelloKey} {keyType : KeyType} {cred : String}
      {c' : Ctx W} {lookup : Option ℕ} {sealed : Sealed}
      (hstep : P.HelloStep a req c k keyType cred c')
      (hrejects : P.Rejects a service oldToken k keyType cred c' lookup sealed) :
      Rejected a service oldToken req c (entraProvider P) P lookup sealed
  | oidc {O : Oidc.OidcProvider W} {k : LoadableMsHelloKey} {keyType : KeyType} {cred : String}
      {c' : Ctx W} {lookup : Option ℕ} {sealed : Sealed}
      (hstep : O.HelloStep a req c k keyType cred c')
      (hrejects : O.Rejects a oldToken k keyType cred c' lookup sealed) :
      Rejected a service oldToken req c (Oidc.oidcProvider O) O.toHimmelblauProvider lookup sealed

section Sessions

variable {R : Resolver (ProviderState W)} {base : HimmelblauProvider W} {p : InProgress}
  {token : UserToken} {req : PamAuthRequest} {s : ResolverState (ProviderState W)}
  {lookup : Option ℕ} {sealed : Sealed}

variable {a service : String} {c : Ctx W}

theorem Rejected.call {h : AuthCredHandler} {ks : KeyStore} {client : ProviderState W}
    {idp : IdProvider (ProviderState W)}
    (hrejected : Rejected a service token req ⟨ks, client, h⟩ idp base lookup sealed)
    (noHelloPin : Bool) :
    ∃ msg h' ks' client', idp.unixUserOnlineAuthStep a token service noHelloPin h req ks client =
        ((.ok (.denied msg, .none), h'), ks', client') ∧
      base.stores a ks' client' = (base.stores a ks client).after lookup sealed := by
  cases hrejected with
  | entra hstep hrejects =>
    obtain ⟨hrun, hstores⟩ := hstep.run service token noHelloPin
    obtain ⟨msg, c', hdenied, hafter⟩ := hrejects.run
    refine ⟨msg, c'.credHandler, c'.keystore, c'.provider, ?_, hafter.trans (by rw [hstores])⟩
    simp only [entraProvider, runStep, hrun, hdenied]
  | oidc hstep hrejects =>
    obtain ⟨hrun, hstores⟩ := hstep.run token noHelloPin
    obtain ⟨msg, c', hdenied, hafter⟩ := hrejects.run
    refine ⟨msg, c'.credHandler, c'.keystore, c'.provider, ?_, hafter.trans (by rw [hstores])⟩
    simp only [Oidc.oidcProvider, runStep, hrun, hdenied]

theorem Rejected.isProvider {idp : IdProvider (ProviderState W)}
    (hrejected : Rejected a service token req c idp base lookup sealed) :
    ∃ ev accepts, Oidc.IsProvider idp ev accepts := by
  cases hrejected with
  | entra => exact ⟨_, _, .entra _⟩
  | oidc => exact ⟨_, _, .oidc _⟩

theorem Rejected.step (htoken : p.token = some token) (honline : R.Online p s)
    (hrejected : Rejected p.accountId p.service token req
      ⟨s.db.hsmDataT, s.client, p.credHandler⟩ R.client base lookup sealed) :
    (∃ msg, R.answer ⟨.inProgress p, s⟩ req = .ok (.denied msg)) ∧
      base.stores p.accountId (R.stepLogin ⟨.inProgress p, s⟩ req).state.db.hsmDataT
          (R.stepLogin ⟨.inProgress p, s⟩ req).state.client =
        (base.stores p.accountId s.db.hsmDataT s.client).after lookup sealed := by
  obtain ⟨ev, accepts, hclient⟩ := hrejected.isProvider
  have hs1 := hclient.rules.exec_getCachestate (some p.accountId) s
  obtain ⟨msg, h', ks', client', hcall, hstores⟩ := hrejected.call p.noHelloPin
  have hcall' : R.client.unixUserOnlineAuthStep p.accountId token p.service p.noHelloPin
      p.credHandler req (s.called s.db.hsmDataT s.client).db.hsmDataT
      (s.called s.db.hsmDataT s.client).client = ((.ok (.denied msg, .none), h'), ks', client') :=
    hcall
  unfold Resolver.answer Resolver.stepLogin
  rw [R.exec_pamAccountAuthenticateStep]
  simp only [R.exec_stepBranch_online htoken honline, hs1, hcall']
  exact ⟨⟨msg, rfl⟩, hstores⟩

/-- **A token of the wrong principal leaves no trace**: where `token_validate` rejects the token
    of an online Hello step, the step is denied, and the account's stores are what they were
    exactly if the credential that was sealed is what is stored already, or none could be sealed,
    and the lookup in the refresh cache, if there was one, purged no entry of the account. -/
theorem wrong_principal_no_trace_iff (htoken : p.token = some token) (honline : R.Online p s)
    (hrejected : Rejected p.accountId p.service token req
      ⟨s.db.hsmDataT, s.client, p.credHandler⟩ R.client base lookup sealed) :
    ((∃ msg, R.answer ⟨.inProgress p, s⟩ req = .ok (.denied msg)) ∧
      base.stores p.accountId (R.stepLogin ⟨.inProgress p, s⟩ req).state.db.hsmDataT
          (R.stepLogin ⟨.inProgress p, s⟩ req).state.client =
        base.stores p.accountId s.db.hsmDataT s.client) ↔
      (base.stores p.accountId s.db.hsmDataT s.client).Has sealed ∧
        Fresh lookup (base.stores p.accountId s.db.hsmDataT s.client).cachedPrt ∧
        Fresh lookup (base.stores p.accountId s.db.hsmDataT s.client).cachedRefreshToken := by
  obtain ⟨hdenied, hstores⟩ := hrejected.step htoken honline
  rw [hstores, Stores.after_eq_self_iff]
  exact and_iff_right hdenied

end Sessions

/-- Alice's daemon, if the identity provider answers alice's key with a token of bob, whose PRT
    the TPM seals or not. -/
def mixedUpProvider (seals : Bool) : HimmelblauProvider Unit :=
  { sampleProvider 3 false with
    outside := { sampleOutside with
      acquireTokenByHelloForBusinessKey := fun _ _ _ _ _ w =>
        (.ok { sampleToken true with spn := some "bob@example.com", prt := some ⟨"PRT of bob"⟩ }, w)
      sealUserPrtWithHelloKey := fun prt _ _ w =>
        (if seals then .ok prt else .error (.tpmFail "seal"), w) } }

def mixedUpResolver (seals : Bool) : Resolver (ProviderState Unit) :=
  { outageResolver with client := entraProvider (mixedUpProvider seals) }

theorem mixedUp_rejected (seals : Bool) :
    Rejected "alice@example.com" "login" aliceToken (.pin "123456")
      ⟨aliceOnline.db.hsmDataT, aliceOnline.client, .none⟩ (mixedUpResolver seals).client
      (mixedUpProvider seals) none (if seals then .prt ⟨"PRT of bob"⟩ else .nothing) := by
  cases seals with
  | true =>
    have hreturns : (mixedUpProvider true).Returns "alice@example.com" "login" aliceToken ⟨"123456"⟩
        .hello "123456" ⟨aliceOnline.db.hsmDataT, aliceOnline.client, .none⟩ _ _ _ :=
      .intro rfl rfl rfl
    exact .entra (.pin rfl rfl rfl) (HimmelblauProvider.Rejects.intro hreturns rfl rfl rfl :)
  | false =>
    have hreturns : (mixedUpProvider false).Returns "alice@example.com" "login" aliceToken
        ⟨"123456"⟩ .hello "123456" ⟨aliceOnline.db.hsmDataT, aliceOnline.client, .none⟩ _ _ _ :=
      .intro rfl rfl rfl
    exact .entra (.pin rfl rfl rfl) (HimmelblauProvider.Rejects.intro hreturns rfl rfl rfl :)

/-- If the TPM does not seal the PRT, the step leaves the stores as they were. -/
theorem wrong_principal_unsealed :
    let R := mixedUpResolver false
    let l := R.stepLogin ⟨.inProgress aliceSession, aliceOnline⟩ (.pin "123456")
    (∃ msg, R.answer ⟨.inProgress aliceSession, aliceOnline⟩ (.pin "123456") =
        .ok (.denied msg)) ∧
      (mixedUpProvider false).stores "alice@example.com" l.state.db.hsmDataT l.state.client =
        (mixedUpProvider false).stores "alice@example.com" aliceOnline.db.hsmDataT
          aliceOnline.client := by
  intro R l
  have honline : R.Online aliceSession aliceOnline := ⟨rfl, rfl⟩
  refine (wrong_principal_no_trace_iff rfl honline (mixedUp_rejected false)).mpr
    ⟨trivial, ?_, ?_⟩
  · exact nofun
  · exact nofun

/-- If it does, the step is denied and the PRT of bob is stored as alice's. -/
theorem wrong_principal_sealed :
    let R := mixedUpResolver true
    let l := R.stepLogin ⟨.inProgress aliceSession, aliceOnline⟩ (.pin "123456")
    Rejected "alice@example.com" "login" aliceToken (.pin "123456")
        ⟨aliceOnline.db.hsmDataT, aliceOnline.client, .none⟩ R.client (mixedUpProvider true) none
        (.prt ⟨"PRT of bob"⟩) ∧
      (∃ msg, R.answer ⟨.inProgress aliceSession, aliceOnline⟩ (.pin "123456") =
        .ok (.denied msg)) ∧
      aliceOnline.db.hsmDataT "alice@example.com/hello_prt" = none ∧
      l.state.db.hsmDataT "alice@example.com/hello_prt" =
        some (.sealedData ⟨"PRT of bob"⟩) := by
  intro R l
  have honline : R.Online aliceSession aliceOnline := ⟨rfl, rfl⟩
  have hrejected := mixedUp_rejected true
  exact ⟨hrejected, (hrejected.step rfl honline).1, by decide +kernel, by decide +kernel⟩

end Himmelblau
