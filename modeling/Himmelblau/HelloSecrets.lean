/-
  **Hello keys and what is sealed with them.**  A PRT, a refresh token and a TOTP secret of
  an account are sealed with its Hello key.  They stay readable as long as no new key is put
  over them: `change_auth_token` and the setup of a PIN store a key without a look at what
  is sealed, or at which of the two tags the key is fetched from.

  The first part is about runs of the daemon, the second about one change of a PIN.
-/
import Himmelblau.DaemonViews

namespace Himmelblau

open Interface Db LockProgram FunctionBody Entra Relation

variable {W : Type}

/-! ## 1. Secrets that agree with the key -/

namespace Entra

def HimmelblauProvider.SealedWith (P : HimmelblauProvider W) : SealedUnder := fun t k d =>
  match t with
  | .prt => ∃ prt pin w, (P.outside.sealUserPrtWithHelloKey prt k pin w).1 = .ok d
  | _ => ∃ pin w sk text w', (P.outside.msHelloKeyLoad k pin w).1 = some sk ∧
      (P.outside.sealData sk text w').1 = some d

/-- What the TPM promises: a value opens under the key that sealed it, and under no other. -/
structure TpmLaws (P : HimmelblauProvider W) : Prop where
  opensOnly : ∀ k pin w sk d w' x, (P.outside.msHelloKeyLoad k pin w).1 = some sk →
    (P.outside.unsealData sk d w').1 = some x → P.SealedWith .totp k d
  opensPrt : ∀ k cred pin w sk d w', P.outside.pinValueNew cred = some pin →
    (P.outside.msHelloKeyLoad k pin w).1 = some sk → P.SealedWith .prt k d →
    ∃ prt, (P.outside.unsealUserPrtWithHelloKey d k cred w').1 = .ok prt
  opensData : ∀ k pin w sk d w', (P.outside.msHelloKeyLoad k pin w).1 = some sk →
    P.SealedWith .totp k d → ∃ x, (P.outside.unsealData sk d w').1 = some x

variable {k : LoadableMsHelloKey}

theorem sealedWith_of_ne_prt {P : HimmelblauProvider W} {t : HelloTag} {d : SealedData}
    (ht : t ≠ .prt) : P.SealedWith t k d ↔ P.SealedWith .totp k d := by
  cases t with
  | prt => exact absurd rfl ht
  | _ => exact Iff.rfl

theorem TpmLaws.sealing {P : HimmelblauProvider W} (laws : TpmLaws P) :
    SealingLaws P P.SealedWith where
  sealsPrt prt _ pin w _ h := ⟨prt, pin, w, h⟩
  sealsData _ _ pin w sk text w' _ ht hload hseal :=
    (sealedWith_of_ne_prt ht).mpr ⟨pin, w, sk, text, w', hload, hseal⟩
  opensUnder _ k pin w sk d w' x ht hload hopen :=
    (sealedWith_of_ne_prt ht).mpr (laws.opensOnly k pin w sk d w' x hload hopen)

def HelloTag.isSecret : HelloTag → Bool
  | prt | refreshToken | totp => true
  | hello | decoupled => false

namespace View

def Consistent (Seals : SealedUnder) (v : View) : Prop :=
  ∀ k kt, v.key = some (k, kt) → ∀ t, t.isSecret = true → ∀ x, v.tags t = some x →
    ∃ d, x = .sealedData d ∧ Seals t k d

/-- A key that is stored now is the one that is fetched, and nothing is sealed yet. -/
def ReadyFor (v : View) (amrNgcmfa : Bool) : Prop :=
  (amrNgcmfa = true ∨ helloKeyOf (v.tags .hello) = none) ∧
    ∀ t, t.isSecret = true → v.tags t = none

end View

section Steps

variable {a : String} {limit : UInt32} {Seals : SealedUnder} {own : Option LoadableMsHelloKey}
  {v v' : View}

theorem View.Consistent.of_key_none (h : v.key = none) : v.Consistent Seals := by
  intro k kt hk
  rw [h] at hk
  cases hk

theorem View.Consistent.congr (h : v.Consistent Seals) (htags : v'.tags = v.tags) :
    v'.Consistent Seals := by
  unfold View.Consistent View.key at h ⊢
  rw [htags]
  exact h

theorem View.Consistent.put (h : v.Consistent Seals) {t : HelloTag} (ht : t.isSecret = true)
    {value : Option StoredKey} (hvalue : ∀ k kt, v.key = some (k, kt) → ∀ x, value = some x →
      ∃ d, x = .sealedData d ∧ Seals t k d) : (v.put t value).Consistent Seals := by
  have hkey : (v.put t value).key = v.key := by
    refine View.key_congr (v.tags_put_of_ne ?_) (v.tags_put_of_ne ?_)
    · rintro rfl
      cases ht
    · rintro rfl
      cases ht
  intro k kt hk t' ht' x hx
  rw [hkey] at hk
  by_cases heq : t' = t
  · subst heq
    exact hvalue k kt hk x ((v.tags_put_self t' value).symm.trans hx)
  · exact h k kt hk t' ht' x ((v.tags_put_of_ne heq).symm.trans hx)

/-- While a step goes on that stored the key `own`, no other key is fetched. -/
def View.OnlyOwn (own : Option LoadableMsHelloKey) (v : View) : Prop :=
  ∀ k0, own = some k0 → ∀ k kt, v.key = some (k, kt) → k = k0

theorem View.onlyOwn_none (v : View) : v.OnlyOwn none := by
  intro k0 h
  cases h

theorem View.OnlyOwn.change (h : v.OnlyOwn own) (hstep : Change a limit Seals own v v') :
    v'.OnlyOwn own := by
  intro k0 hown k kt hk
  rcases hstep.key_eq with hnone | heq
  · rw [hnone] at hk
    cases hk
  · exact h k0 hown k kt (heq ▸ hk)

theorem View.OnlyOwn.holds (h : v.OnlyOwn own) {k1 : LoadableMsHelloKey} (hk1 : v.Holds own k1)
    {kt : KeyType} (hk : v.key = some (k, kt)) : k = k1 := by
  rcases hk1 with ⟨kt', hkey⟩ | ⟨hown, -⟩
  · rw [hk] at hkey
    exact (Prod.mk.inj (Option.some.inj hkey)).1
  · exact h k1 hown k kt hk

theorem View.Consistent.bad (h : v.Consistent Seals) : (v.bad a limit).Consistent Seals := by
  unfold View.bad
  dsimp only
  split
  · exact .of_key_none rfl
  · exact h.congr rfl

theorem View.Consistent.change (h : v.Consistent Seals) (hown : v.OnlyOwn own)
    (hstep : Change a limit Seals own v v') : v'.Consistent Seals := by
  cases hstep with
  | validated t => exact h.congr rfl
  | move hstep =>
    cases hstep with
    | bad => exact h.bad
    | failed e ha he => exact (h.congr rfl : (v.log e).Consistent Seals).bad
    | totpStored k kt d hk hd =>
      refine h.put rfl fun k' kt' hk' x hx => ⟨d, (Option.some.inj hx).symm, ?_⟩
      rw [hk] at hk'
      cases hk'
      exact hd
    | mild hstep =>
      cases hstep with
      | log e ha he => exact h.congr rfl
      | reset e es hv he => exact h.congr rfl
      | sealed t k d ht hk hd =>
        refine h.put (by rcases ht with rfl | rfl <;> rfl) fun k' kt' hk' x hx =>
          ⟨d, (Option.some.inj hx).symm, ?_⟩
        rw [hown.holds hk hk']
        exact hd
      | dropped t ht =>
        exact h.put (by rcases ht with rfl | rfl <;> rfl) nofun

theorem View.Consistent.changes (h : v.Consistent Seals) (hown : v.OnlyOwn own)
    (hsteps : ReflTransGen (Change a limit Seals own) v v') : v'.Consistent Seals := by
  have hboth : v'.Consistent Seals ∧ v'.OnlyOwn own := by
    induction hsteps with
    | refl => exact ⟨h, hown⟩
    | tail _ hstep ih => exact ⟨ih.1.change ih.2 hstep, ih.2.change hstep⟩
  exact hboth.1

/-! A decoupled key is fetched if there is no other. -/

theorem View.key_store_true : (v.store a true k).key = some (k, .hello) := rfl

theorem View.key_store_of_none (h : helloKeyOf (v.tags .hello) = none) :
    (v.store a false k).key = some (k, .decoupled) := by
  have hhello : (v.store a false k).tags .hello = v.tags .hello := rfl
  rw [View.key, hhello, h]
  rfl

theorem View.key_store_of_some {k0 : LoadableMsHelloKey}
    (h : helloKeyOf (v.tags .hello) = some k0) : (v.store a false k).key = some (k0, .hello) := by
  have hhello : (v.store a false k).tags .hello = v.tags .hello := rfl
  rw [View.key, hhello, h]

variable {amrNgcmfa : Bool}

theorem View.ReadyFor.key_store (h : v.ReadyFor amrNgcmfa) (k : LoadableMsHelloKey) :
    ∃ kt, (v.store a amrNgcmfa k).key = some (k, kt) := by
  cases amrNgcmfa with
  | true => exact ⟨.hello, rfl⟩
  | false => exact ⟨.decoupled, View.key_store_of_none (h.1.resolve_left (by decide))⟩

theorem View.ReadyFor.store (h : v.ReadyFor amrNgcmfa) (k : LoadableMsHelloKey) :
    (v.store a amrNgcmfa k).Consistent Seals := by
  intro k' kt hk' t ht x hx
  have htag : (v.store a amrNgcmfa k).tags t = v.tags t := by
    refine v.tags_put_of_ne ?_
    rintro rfl
    cases amrNgcmfa <;> cases ht
  rw [htag, h.2 t ht] at hx
  cases hx

theorem View.Consistent.calls {may : View → Bool → Prop}
    (hmay : ∀ v amr, may v amr → v.ReadyFor amr) (h : v.Consistent Seals)
    (hsteps : ReflTransGen (CallStep a limit Seals may) v v') : v'.Consistent Seals := by
  induction hsteps with
  | refl => exact h
  | tail _ hstep ih =>
    cases hstep with
    | change hstep => exact ih.change (View.onlyOwn_none _) hstep
    | cleared => exact .of_key_none rfl
    | stored amrNgcmfa k hstored hsteps =>
      have hready := hmay _ _ hstored
      refine (hready.store k).changes ?_ hsteps
      rintro _ ⟨rfl⟩ k' kt' hk'
      obtain ⟨kt, hkt⟩ := hready.key_store (a := a) k
      rw [hkt] at hk'
      exact (Prod.mk.inj (Option.some.inj hk')).1.symm

end Steps

end Entra

/-! ## 2. Runs from an empty keystore -/

namespace Daemon

variable {D : Daemon W} {a : String} {s : DaemonState W}

theorem consistent_run (laws : TpmLaws D.provider)
    (hidem : ∀ x, D.toLowercase (D.toLowercase x) = D.toLowercase x) (ha : D.toLowercase a = a)
    (hs : Started s) (hempty : ∀ t, s.resolver.db.hsmDataT (D.provider.tag a t) = none)
    (inputs : List Input)
    (hall : D.AllSteps (fun s input => ∀ v amrNgcmfa, D.InputStores a s input v amrNgcmfa →
      v.ReadyFor amrNgcmfa) s inputs) :
    (D.viewOf a (D.run s inputs).resolver).Consistent D.provider.SealedWith := by
  have hstart : (D.viewOf a s.resolver).key = none := by
    unfold View.key
    simp only [viewOf, HimmelblauProvider.view, hempty, helloKeyOf]
  obtain ⟨-, hcalls⟩ : _ ∧ D.provider.Calls _ a (fun v amr => v.ReadyFor amr) _ _ :=
    calls_run laws.sealing hidem ha (fun _ _ v amr hok hstores => hok v amr hstores) inputs
      hs.sessionsLower hs.snapshotAgrees hall
  exact View.Consistent.calls (fun _ _ h => h) (.of_key_none hstart) hcalls

/-- **Hello secrets agree with the Hello key.**  If keys are only stored where nothing is
    sealed and where they are fetched from, the PIN of the key opens all that is sealed. -/
theorem hello_secrets_open (laws : TpmLaws D.provider)
    (hidem : ∀ x, D.toLowercase (D.toLowercase x) = D.toLowercase x) (ha : D.toLowercase a = a)
    (hs : Started s) (hempty : ∀ t, s.resolver.db.hsmDataT (D.provider.tag a t) = none)
    (inputs : List Input)
    (hall : D.AllSteps (fun s input => ∀ v amrNgcmfa, D.InputStores a s input v amrNgcmfa →
      v.ReadyFor amrNgcmfa) s inputs)
    {k : LoadableMsHelloKey} {kt : KeyType}
    (hkey : D.provider.fetchHelloKey a (D.run s inputs).resolver.db.hsmDataT = .ok (k, kt)) :
    (∀ t, t.isSecret = true → ∀ x,
      (D.run s inputs).resolver.db.hsmDataT (D.provider.tag a t) = some x →
        ∃ d, x = .sealedData d ∧ D.provider.SealedWith t k d) ∧
    ∀ cred pin w sk, D.provider.outside.pinValueNew cred = some pin →
      (D.provider.outside.msHelloKeyLoad k pin w).1 = some sk → ∀ d w',
      ((D.run s inputs).resolver.db.hsmDataT (D.provider.fetchHelloPrtKeyTag a) =
        some (.sealedData d) →
          ∃ prt, (D.provider.outside.unsealUserPrtWithHelloKey d k cred w').1 = .ok prt) ∧
      ((D.run s inputs).resolver.db.hsmDataT (D.provider.fetchHelloRefreshTokenKeyTag a) =
        some (.sealedData d) → ∃ x, (D.provider.outside.unsealData sk d w').1 = some x) ∧
      ((D.run s inputs).resolver.db.hsmDataT (D.provider.fetchHelloTotpKeyTag a) =
        some (.sealedData d) → ∃ x, (D.provider.outside.unsealData sk d w').1 = some x) := by
  have hview : (D.viewOf a (D.run s inputs).resolver).key = some (k, kt) :=
    (D.provider.fetchHelloKey_eq_ok (a := a)
      (c := ⟨(D.run s inputs).resolver.db.hsmDataT, (D.run s inputs).resolver.client, .none⟩)).mp
      hkey
  have hsecrets := consistent_run laws hidem ha hs hempty inputs hall k kt hview
  have hsealed : ∀ t d, t.isSecret = true →
      (D.run s inputs).resolver.db.hsmDataT (D.provider.tag a t) = some (.sealedData d) →
      D.provider.SealedWith t k d := by
    intro t d ht hd
    obtain ⟨d', heq, hd'⟩ := hsecrets t ht _ hd
    cases heq
    exact hd'
  refine ⟨fun t ht x hx => hsecrets t ht x hx, fun cred pin w sk hpin hload d w' => ⟨?_, ?_, ?_⟩⟩
  · exact fun hd => laws.opensPrt k cred pin w sk d w' hpin hload (hsealed .prt d rfl hd)
  · exact fun hd => laws.opensData k pin w sk d w' hload (hsealed .refreshToken d rfl hd)
  · exact fun hd => laws.opensData k pin w sk d w' hload (hsealed .totp d rfl hd)

end Daemon

variable {k : LoadableMsHelloKey} {limit : UInt32} {amrNgcmfa : Bool}

theorem sampleOutside_load {pin : Msal.PinValue} {w : Unit} {sk : Msal.StorageKey}
    (h : (sampleOutside.msHelloKeyLoad k pin w).1 = some sk) :
    k.blob = pin.value ∧ sk = ⟨k.blob⟩ := by
  simp only [sampleOutside] at h
  split at h
  · rename_i hpin
    exact ⟨hpin, (Option.some.inj h).symm⟩
  · cases h

theorem sampleProvider_tpmLaws (totp : Bool) : TpmLaws (sampleProvider limit totp) where
  opensOnly := by
    intro k pin w sk d w' x hload hopen
    obtain ⟨-, rfl⟩ := sampleOutside_load hload
    refine ⟨pin, w, ⟨k.blob⟩, "", (), hload, ?_⟩
    simp only [sampleProvider, sampleOutside] at hopen
    split at hopen
    · rename_i hblob
      exact congrArg some (congrArg SealedData.mk hblob.symm)
    · cases hopen
  opensPrt := by
    rintro k cred pin w sk d w' - - ⟨prt, pin', w1, hseal⟩
    cases hseal
    exact ⟨_, if_pos rfl⟩
  opensData := by
    rintro k pin w sk d w' hload ⟨pin', w1, sk', text, w2, hload', hseal⟩
    obtain ⟨-, rfl⟩ := sampleOutside_load hload
    obtain ⟨-, rfl⟩ := sampleOutside_load hload'
    cases hseal
    exact ⟨_, if_pos rfl⟩

def sampleSetup : List Input :=
  sampleLogin [.password "password", .mfaPoll 0, .setupPin "111111"]

theorem sampleSetup_ready :
    (sampleDaemon 3 false).AllSteps (fun s input => ∀ v amrNgcmfa,
      (sampleDaemon 3 false).InputStores "alice@example.com" s input v amrNgcmfa →
        v.ReadyFor amrNgcmfa) (sampleState .online fun _ => none) sampleSetup := by
  refine ⟨fun v amr h => h.elim, ?_, ?_, ?_, trivial⟩
  · rintro v amr ⟨session, -, p, -, -, -, token, pin, -, hreq, -⟩
    cases hreq
  · rintro v amr ⟨session, -, p, -, -, -, token, pin, -, hreq, -⟩
    cases hreq
  · rintro v amr ⟨session, -, p, -, -, rfl, -⟩
    refine ⟨.inr (by decide +kernel), fun t ht => ?_⟩
    cases t with
    | hello => cases ht
    | decoupled => cases ht
    | prt => decide +kernel
    | refreshToken => decide +kernel
    | totp => decide +kernel

theorem sampleSetup_key :
    (sampleProvider 3 false).fetchHelloKey "alice@example.com" ((sampleDaemon 3 false).run
      (sampleState .online fun _ => none) sampleSetup).resolver.db.hsmDataT =
        .ok (⟨"111111"⟩, .hello) := by
  decide +kernel

theorem hello_secrets_open_alice :
    (sampleProvider 3 false).SealedWith .prt ⟨"111111"⟩ ⟨"111111"⟩ := by
  obtain ⟨d, hd, hsealed⟩ := ((sampleDaemon 3 false).hello_secrets_open
    (a := "alice@example.com") (sampleProvider_tpmLaws false)
    (fun _ => rfl) rfl (sampleState_started .online fun _ => none) (fun _ => rfl) sampleSetup
    sampleSetup_ready sampleSetup_key).1 .prt rfl (.sealedData ⟨"111111"⟩) (by decide +kernel)
  cases hd
  exact hsealed

/-- Then the PIN is changed: the PRT stays sealed with the key before, and the new PIN does not
    open it. -/
theorem hello_secrets_stale :
    let s := (sampleDaemon 3 false).run (sampleState .online fun _ => none) (sampleSetup ++
      [.client 0 1000 (.pamChangeAuthToken "alice@example.com" "mfa" "" "222222")])
    (sampleProvider 3 false).fetchHelloKey "alice@example.com" s.resolver.db.hsmDataT =
      .ok (⟨"222222"⟩, .hello) ∧
    s.resolver.db.hsmDataT "alice@example.com/hello_prt" = some (.sealedData ⟨"111111"⟩) ∧
    ¬ (sampleProvider 3 false).SealedWith .prt ⟨"222222"⟩ ⟨"111111"⟩ ∧
    (sampleOutside.unsealUserPrtWithHelloKey ⟨"111111"⟩ ⟨"222222"⟩ "222222" ()).1 =
      .error (.tpmFail "unseal") := by
  refine ⟨by decide +kernel, by decide +kernel, ?_, rfl⟩
  rintro ⟨prt, pin, w, hseal⟩
  have heq : (⟨"222222"⟩ : SealedData) = ⟨"111111"⟩ := Except.ok.inj hseal
  exact absurd heq (by decide)

/-! ## 3. Changing a PIN -/

namespace Entra

/-- What the TPM and the client promise of a new key: its PIN loads it, and no other does. -/
structure HelloKeyLaws (P : HimmelblauProvider W) : Prop where
  loads : ∀ token cred k amrNgcmfa, P.CreatedFor token cred k amrNgcmfa → P.Loads cred k
  loadsOnly : ∀ token cred k amrNgcmfa, P.CreatedFor token cred k amrNgcmfa →
    ∀ cred', P.Loads cred' k → cred' = cred

/-- After `change_auth_token` with the PIN `cred`, which stored its key under `tag`, that key is
    fetched, `cred` loads it, and no other PIN of the key that was fetched before does. -/
def HimmelblauProvider.TakesEffect (P : HimmelblauProvider W) (a tag cred : String)
    (before after : KeyStore) : Prop :=
  ∃ k kt, P.fetchHelloKey a after = .ok (k, kt) ∧ after tag = some (.helloKey k) ∧
    P.Loads cred k ∧
    ∀ cred', cred' ≠ cred → ∀ k' kt', P.fetchHelloKey a before = .ok (k', kt') →
      P.Loads cred' k' → ¬ P.Loads cred' k

namespace HimmelblauProvider

variable {P : HimmelblauProvider W} {a newTok : String} {token : UnixUserToken} {c : Ctx W}

theorem changeAuthToken_stored (h : ((P.changeAuthToken a token newTok).run c).1 = .ok true) :
    ∃ amrNgcmfa k, token.amrNgcmfa = some amrNgcmfa ∧ P.CreatedFor token newTok k amrNgcmfa ∧
      P.see a ((P.changeAuthToken a token newTok).run c).2 = (P.see a c).store a amrNgcmfa k := by
  rcases (changeAuthToken_ensures (P := P) (a := a) (c := c) token newTok).run_of_stays with
    ⟨-, e, he⟩ | ⟨-, -, amrNgcmfa, k, hamr, hcreated, hsee⟩
  · rw [h] at he
    cases he
  · exact ⟨amrNgcmfa, k, hamr, hcreated, hsee⟩

theorem fetchHelloKeyTag_eq (amrNgcmfa : Bool) :
    P.fetchHelloKeyTag a amrNgcmfa = P.tag a (if amrNgcmfa then .hello else .decoupled) := by
  cases amrNgcmfa <;> rfl

variable {amrNgcmfa : Bool}

theorem takesEffect_of_key (laws : HelloKeyLaws P) {c' : Ctx W} {kt : KeyType}
    (hcreated : P.CreatedFor token newTok k amrNgcmfa)
    (hsee : P.see a c' = (P.see a c).store a amrNgcmfa k)
    (hkey : ((P.see a c).store a amrNgcmfa k).key = some (k, kt)) :
    P.TakesEffect a (P.fetchHelloKeyTag a amrNgcmfa) newTok c.keystore c'.keystore := by
  refine ⟨k, kt, P.fetchHelloKey_eq_ok.mpr (hsee ▸ hkey), ?_,
    laws.loads token newTok k amrNgcmfa hcreated, ?_⟩
  · rw [fetchHelloKeyTag_eq]
    change (P.see a c').tags _ = _
    rw [hsee]
    exact View.tags_put_self ..
  · intro cred' hne _ _ _ _ hloads
    exact hne (laws.loadsOnly token newTok k amrNgcmfa hcreated cred' hloads)

/-- **A change of the PIN takes effect** just if the new key is a Hello for Business key, or
    there was none before: a decoupled key is not fetched while there is one. -/
theorem changeAuthToken_takesEffect_iff (laws : HelloKeyLaws P) {amrNgcmfa : Bool}
    (hamr : token.amrNgcmfa = some amrNgcmfa)
    (h : ((P.changeAuthToken a token newTok).run c).1 = .ok true)
    (hfresh : ∀ k, ((P.changeAuthToken a token newTok).run c).2.keystore
      (P.fetchHelloKeyTag a amrNgcmfa) = some (.helloKey k) →
        c.keystore (P.fetchHelloKeyTag a true) ≠ some (.helloKey k)) :
    P.TakesEffect a (P.fetchHelloKeyTag a amrNgcmfa) newTok c.keystore
      ((P.changeAuthToken a token newTok).run c).2.keystore ↔
      amrNgcmfa = true ∨ helloKeyOf (c.keystore (P.fetchHelloKeyTag a true)) = none := by
  obtain ⟨amr, k, hamr', hcreated, hsee⟩ := changeAuthToken_stored h
  obtain rfl : amrNgcmfa = amr := Option.some.inj (hamr.symm.trans hamr')
  constructor
  · rintro ⟨k₁, kt₁, hfetch, hstored, -⟩
    by_contra hno
    rw [not_or] at hno
    obtain ⟨hfalse, hhello⟩ := hno
    obtain rfl : amrNgcmfa = false := Bool.eq_false_iff.mpr hfalse
    obtain ⟨k₀, hk₀⟩ := Option.ne_none_iff_exists'.mp hhello
    -- The key under the hello tag is still there, and is fetched first.
    have hkey : ((P.see a c).store a false k).key = some (k₀, .hello) :=
      View.key_store_of_some hk₀
    have hk₁ := P.fetchHelloKey_eq_ok.mp hfetch
    rw [hsee, hkey] at hk₁
    obtain ⟨rfl, -⟩ := Prod.mk.inj (Option.some.inj hk₁)
    refine hfresh k₀ hstored ?_
    cases hx : c.keystore (P.fetchHelloKeyTag a true) with
    | none => rw [hx] at hk₀; cases hk₀
    | some x =>
      rw [hx] at hk₀
      cases x with
      | helloKey k' => exact congrArg some (congrArg StoredKey.helloKey (Option.some.inj hk₀))
      | sealedData d => cases hk₀
      | other json => cases hk₀
  · rintro (rfl | hnone)
    · exact takesEffect_of_key laws hcreated hsee View.key_store_true
    · cases amrNgcmfa with
      | true => exact takesEffect_of_key laws hcreated hsee View.key_store_true
      | false => exact takesEffect_of_key laws hcreated hsee (View.key_store_of_none hnone)

end HimmelblauProvider

end Entra

theorem sampleProvider_createdFor {totp : Bool} {token : UnixUserToken} {cred : String}
    (h : (sampleProvider limit totp).CreatedFor token cred k amrNgcmfa) : k = ⟨cred⟩ := by
  cases amrNgcmfa with
  | true =>
    obtain ⟨w, hw⟩ := h
    cases hw
    rfl
  | false =>
    obtain ⟨pin, w, hpin, hw⟩ := h
    cases hpin
    cases hw
    rfl

theorem sampleProvider_helloKeyLaws (totp : Bool) : HelloKeyLaws (sampleProvider limit totp) where
  loads := by
    intro token cred k amrNgcmfa h
    rw [sampleProvider_createdFor h]
    refine ⟨⟨cred⟩, (), rfl, ?_⟩
    simp [sampleProvider, sampleOutside]
  loadsOnly := by
    rintro token cred k amrNgcmfa h cred' ⟨pin, w, hpin, hload⟩
    rw [sampleProvider_createdFor h] at hload
    obtain ⟨sk, hsk⟩ := Option.isSome_iff_exists.mp hload
    cases hpin
    exact (sampleOutside_load hsk).1.symm

def sampleChange (amrNgcmfa : Bool) : Except IdpError Bool × Ctx Unit :=
  ((sampleProvider 3 false).changeAuthToken "alice@example.com" (sampleToken amrNgcmfa)
    "222222").run ⟨sampleKeystore [("alice@example.com/hello", .helloKey ⟨"111111"⟩)],
      sampleProviderState .online, .none⟩

theorem changeAuthToken_takesEffect_alice :
    (sampleProvider 3 false).TakesEffect "alice@example.com" "alice@example.com/hello" "222222"
      (sampleKeystore [("alice@example.com/hello", .helloKey ⟨"111111"⟩)])
      (sampleChange true).2.keystore := by
  refine (HimmelblauProvider.changeAuthToken_takesEffect_iff (sampleProvider_helloKeyLaws false)
    (rfl : (sampleToken true).amrNgcmfa = some true) (by decide +kernel) ?_).mpr (.inl rfl)
  intro k hk hold
  have hnew : (sampleChange true).2.keystore "alice@example.com/hello" =
    some (.helloKey ⟨"222222"⟩) := by decide +kernel
  have heq : (⟨"222222"⟩ : LoadableMsHelloKey) = ⟨"111111"⟩ :=
    (StoredKey.helloKey.inj (Option.some.inj (hnew.symm.trans hk))).trans
      (StoredKey.helloKey.inj (Option.some.inj hold)).symm
  exact absurd heq (by decide)

/-- Without multi-factor authentication the answer is `Ok(true)` as well, but the key of the old
    PIN is still the one that is fetched. -/
theorem changeAuthToken_without_effect :
    (sampleChange false).1 = .ok true ∧
    (sampleProvider 3 false).fetchHelloKey "alice@example.com" (sampleChange false).2.keystore =
      .ok (⟨"111111"⟩, .hello) ∧
    (sampleProvider 3 false).Loads "111111" ⟨"111111"⟩ ∧
    ¬ (sampleProvider 3 false).Loads "222222" ⟨"111111"⟩ := by
  refine ⟨by decide +kernel, by decide +kernel, ⟨⟨"111111"⟩, (), rfl, rfl⟩, ?_⟩
  rintro ⟨pin, w, hpin, hload⟩
  cases hpin
  cases hload

end Himmelblau
