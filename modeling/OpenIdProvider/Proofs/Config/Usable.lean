/-
  Configurations that can be used. The checks of a configuration bound no lifetime from above, and
  a token request is aborted when a lifetime leads beyond the last date. So a configuration that
  passes its checks gives servers that answer every token request between the years 1970 and 9999
  exactly when the longer of its lifetimes, that of refresh tokens, leads from the end of these
  years no further than to the last date.
-/
import OpenIdProvider.Proofs.Provider.Aborted
import OpenIdProvider.Server

namespace OpenIdProvider

open Http Provider

/-! ## Lifetimes -/

namespace Instant

/-- The last instant of the year 9999. -/
def lastModern : Instant := ⟨253402300799999999999, by decide⟩

/-- An instant between the years 1970 and 9999. -/
def Modern (t : Instant) : Prop := 0 ≤ t.nanoseconds ∧ t ≤ lastModern

example : lastModern.text = "9999-12-31T23:59:59+00:00" := by decide

/-- How long it is from the end of the year 9999 to the last date that can be represented. -/
def margin : Duration := 7956864576000

theorem margin_nanoseconds : margin.nanoseconds = 7956864576000000000000 := rfl

theorem isRepresentable_of_le_margin {d : Duration} (hd : 0 ≤ d.nanoseconds) (h : d ≤ margin) :
    d.isRepresentable = true := by
  have hle : d.nanoseconds ≤ 7956864576000000000000 := h
  have hbounds : -9223372036854775807000000 ≤ d.nanoseconds ∧
      d.nanoseconds ≤ 9223372036854775807000000 := by omega
  rw [Duration.isRepresentable, Bool.and_eq_true, decide_eq_true_iff, decide_eq_true_iff]
  exact hbounds

theorem isSome_plus?_of_modern {t : Instant} {d : Duration} (h : t.Modern)
    (hd : 0 ≤ d.nanoseconds) (hmargin : d ≤ margin) : (t.plus? d).isSome = true := by
  have hduration := isRepresentable_of_le_margin hd hmargin
  obtain ⟨hlow, hhigh⟩ := h
  have hlater : t.nanoseconds ≤ 253402300799999999999 := hhigh
  have hle : d.nanoseconds ≤ 7956864576000000000000 := hmargin
  have hdate : HasDate (t.nanoseconds + d.nanoseconds) := ⟨by omega, by omega⟩
  have hfinish : t.plus? d = some ⟨t.nanoseconds + d.nanoseconds, hdate⟩ :=
    plus?_eq_some_iff.2 ⟨hduration, rfl⟩
  rw [hfinish]
  rfl

theorem plus?_of_margin_lt {d : Duration} (h : ¬ d ≤ margin) : lastModern.plus? d = none := by
  rw [Option.eq_none_iff_forall_ne_some]
  intro finish hfinish
  obtain ⟨-, hsum⟩ := plus?_eq_some_iff.1 hfinish
  have hlate : ¬ d.nanoseconds ≤ 7956864576000000000000 := h
  have hstart : lastModern.nanoseconds = 253402300799999999999 := rfl
  have hdate := finish.hasDate.2
  omega

end Instant

/-! ## Servers that answer -/

namespace Server

/-- What becomes of a server as it is used. -/
inductive Reaches (start : Server) : Server → Prop
  | refl : Reaches start start
  | queueUser {server : Server} (u : User) :
      Reaches start server → Reaches start (server.queueUser u)
  | queueCode {server : Server} (code : String) :
      Reaches start server → Reaches start (server.queueCode code)
  | queueError {server : Server} (e : ProtocolError) :
      Reaches start server → Reaches start (server.queueError e)
  | fastForward {server : Server} (d : Duration) :
      Reaches start server → Reaches start (server.fastForward d)
  | respond {server : Server} (now : Instant) (r : Request) :
      Reaches start server → Reaches start (server.respond now r).2

/-- A server that aborts no token request between the years 1970 and 9999, whatever came before. -/
def Serves (start : Server) : Prop :=
  ∀ server, start.Reaches server → ∀ (now t : Instant) (r : Request),
    server.clock.now? now = some t → t.Modern → Endpoint.ofPath? r.path = some .token →
    (server.respond now r).1 ≠ none

/-- What the provider of a server finds at an instant. -/
def state (server : Server) (t : Instant) : ProviderState :=
  ⟨server.store, server.users, server.errors, .running t⟩

theorem respond_of_now {server : Server} {now t : Instant} (h : server.clock.now? now = some t)
    (r : Request) :
    server.respond now r =
      ((server.provider.respond r (server.state t)).1,
        { server with
          store := (server.provider.respond r (server.state t)).2.store
          users := (server.provider.respond r (server.state t)).2.users
          errors := (server.provider.respond r (server.state t)).2.errors }) := by
  unfold respond
  rw [h]
  rfl

/-- The provider of a server stays the same. -/
theorem Reaches.provider_eq {start server : Server} (h : start.Reaches server) :
    server.provider = start.provider := by
  induction h with
  | refl => rfl
  | queueUser u _ ih => exact ih
  | queueCode code _ ih => exact ih
  | queueError e _ ih => exact ih
  | fastForward d _ ih => exact ih
  | @respond server now r _ ih =>
    cases hnow : server.clock.now? now with
    | none =>
      unfold Server.respond
      rw [hnow]
      exact ih
    | some t =>
      rw [respond_of_now hnow]
      exact ih

/-- Lifetimes that do not lead too far abort no request. -/
theorem serves_of_margin {start : Server} (hkeys : start.provider.keys.Faithful)
    (haccess : 0 ≤ start.settings.accessTtl.nanoseconds ∧
      start.settings.accessTtl ≤ Instant.margin)
    (hrefresh : 0 ≤ start.settings.refreshTtl.nanoseconds ∧
      start.settings.refreshTtl ≤ Instant.margin) :
    start.Serves := by
  intro server hreaches now t r hnow hmodern hpath hnone
  rw [respond_of_now hnow, hreaches.provider_eq] at hnone
  obtain ⟨grant, shown, session, -, hlate⟩ :=
    (aborts_iff hkeys (server.state t) hpath).1 hnone
  rcases hlate with hlate | ⟨-, hlate⟩
  · have hfits := Instant.isSome_plus?_of_modern hmodern haccess.1 haccess.2
    rw [show t.plus? start.settings.accessTtl = none from hlate] at hfits
    cases hfits
  · have hfits := Instant.isSome_plus?_of_modern hmodern hrefresh.1 hrefresh.2
    rw [show t.plus? start.settings.refreshTtl = none from hlate] at hfits
    cases hfits

/-- The code of a server that nobody has used yet can be made an open one. -/
theorem exists_open {start : Server} (hclient : start.provider.HasClient)
    (hstore : start.store = .empty) (herrors : start.errors = .empty) {now t : Instant}
    (hnow : start.clock.now? now = some t) :
    ∃ server, start.Reaches server ∧ server.clock = start.clock ∧ server.errors = .empty ∧
      server.store.Open "c" := by
  have hnow' : (start.queueCode "c").clock.now? now = some t := hnow
  have herrors' : ((start.queueCode "c").state t).errors.items = [] :=
    congrArg Queue.items herrors
  refine ⟨_, .respond now start.provider.loginRequest (.queueCode "c" .refl), ?_⟩
  rw [respond_of_now hnow']
  show start.clock = start.clock ∧
    (start.provider.respond start.provider.loginRequest _).2.errors = .empty ∧
    (start.provider.respond start.provider.loginRequest _).2.store.Open "c"
  rw [respond_loginRequest hclient herrors']
  refine ⟨rfl, herrors, ?_⟩
  show (((start.store.queueCode "c").create start.provider.randomId ["openid"] none
    start.users.next.1).2).Open "c"
  rw [hstore]
  exact ⟨_, rfl, rfl⟩

/-- A server whose refresh tokens last too long aborts an exchange at the end of the year 9999. -/
theorem not_serves_of_margin_lt {start : Server} (hkeys : start.provider.keys.Faithful)
    (hclient : start.provider.HasClient) (hstore : start.store = .empty)
    (herrors : start.errors = .empty) (hclock : start.clock = ⟨0⟩)
    (hlate : ¬ start.settings.refreshTtl ≤ Instant.margin) : ¬ start.Serves := by
  intro hserves
  have hnow : start.clock.now? .lastModern = some .lastModern := by
    rw [hclock]
    decide
  obtain ⟨server, hreaches, hclock', herrors', hopen⟩ :=
    exists_open hclient hstore herrors hnow
  have hnow' : server.clock.now? .lastModern = some .lastModern := hclock' ▸ hnow
  refine hserves server hreaches .lastModern .lastModern
    (start.provider.grantRequest .authorizationCode "c") hnow' ⟨by decide, by decide⟩ rfl ?_
  rw [respond_of_now hnow', hreaches.provider_eq]
  exact aborts_grantRequest hkeys hclient (congrArg Queue.items herrors') (by decide) hopen
    (.inr ⟨rfl, Instant.plus?_of_margin_lt hlate⟩)

end Server

/-! ## Plans -/

namespace ServerPlan

/-- A plan is made when the configured key is read and both lifetimes can be represented. -/
theorem ofConfig_eq_ok_iff {c : Config} {keyFile : File} {plan : ServerPlan} :
    ofConfig c keyFile = .ok plan ↔
      ∃ keys, keysOf c keyFile = .ok keys ∧ c.accessTtl.isRepresentable = true ∧
        c.refreshTtl.isRepresentable = true ∧
        plan = ⟨c.client.clientId, c.client.clientSecret, c.server.publicUrl, c.accessTtl,
          c.refreshTtl, keys, c.users⟩ := by
  unfold ofConfig
  rw [bind_eq_ok]
  cases keysOf c keyFile with
  | error e => exact ⟨nofun, nofun⟩
  | ok keys =>
    simp only [Except.mapError, Bool.and_eq_true]
    split
    · rename_i h
      simp [h.1, h.2, eq_comm]
    · rename_i h
      rw [not_and] at h
      refine ⟨nofun, ?_⟩
      rintro ⟨_, -, haccess, hrefresh, -⟩
      exact absurd hrefresh (h haccess)

end ServerPlan

namespace Config

theorem require_eq_ok_iff {ok : Bool} {e : ConfigError} :
    require ok e = .ok () ↔ ok = true := by
  unfold require
  cases ok <;> simp

/-- What the checks of a configuration say about its client and its lifetimes. -/
theorem of_validate {c : Config} (h : c.validate = .ok ()) :
    c.client.clientId ≠ some "" ∧ c.client.clientSecret ≠ some "" ∧
      c.tokens.accessTtl ≤ c.tokens.refreshTtl := by
  simp only [validate, bind_unit_eq_ok, require_eq_ok_iff, bne_iff_ne, decide_eq_true_eq] at h
  obtain ⟨-, -, hid, hsecret, -, hle, -⟩ := h
  exact ⟨hid, hsecret, hle⟩

/-- If a key file is configured, a key that can sign is read from it. -/
def KeySigns (c : Config) (keyFile : File) : Prop :=
  ∀ path, c.privateKeyFile = some path →
    ∃ key, Rsa.PrivateKey.ofFile path keyFile = .ok key ∧ key.CanSign

/-- A configuration that gives a plan, and servers that answer every token request. -/
def Usable (c : Config) (keyFile : File) : Prop :=
  ∃ plan, ServerPlan.ofConfig c keyFile = .ok plan ∧
    ∀ address key random, key.CanSign → (plan.start address (.ofRsa key) random).Serves

/-- Such a key, or one that is made up, signs everything. -/
theorem KeySigns.exists_keys {c : Config} {keyFile : File} (h : c.KeySigns keyFile) :
    ∃ keys, ServerPlan.keysOf c keyFile = .ok keys ∧
      ∀ madeUp : KeyAuthority, madeUp.Faithful → (keys.getD madeUp).Faithful := by
  unfold ServerPlan.keysOf
  cases hpath : c.privateKeyFile with
  | none => exact ⟨none, rfl, fun madeUp hmadeUp => hmadeUp⟩
  | some path =>
    obtain ⟨key, hkey, hsigns⟩ := h path hpath
    exact ⟨_, map_eq_ok.2 ⟨key, hkey, rfl⟩, fun _ _ => KeyAuthority.faithful_ofRsa hsigns⟩

theorem lifetime_nanoseconds (seconds : Nat) :
    (lifetime seconds).nanoseconds = min (seconds : Int) 0x7FFFFFFFFFFFFFFF * 1000000000 := rfl

theorem lifetime_le_margin_iff {seconds : Nat} :
    lifetime seconds ≤ Instant.margin ↔ seconds ≤ 7956864576000 := by
  show (lifetime seconds).nanoseconds ≤ Instant.margin.nanoseconds ↔ _
  rw [lifetime_nanoseconds, Instant.margin_nanoseconds]
  omega

theorem lifetime_nonneg (seconds : Nat) : 0 ≤ (lifetime seconds).nanoseconds := by
  rw [lifetime_nanoseconds]
  omega

/-- A configuration that passes its checks can be used exactly when its refresh tokens last no
longer than it is from the end of the year 9999 to the last date. -/
theorem usable_iff {c : Config} {keyFile : File} (hvalid : c.validate = .ok ())
    (hkey : c.KeySigns keyFile) :
    c.Usable keyFile ↔ c.tokens.refreshTtl ≤ 7956864576000 := by
  obtain ⟨hid, hsecret, hle⟩ := of_validate hvalid
  obtain ⟨keys, hkeys, hfaithful⟩ := hkey.exists_keys
  constructor
  · rintro ⟨plan, hplan, hserves⟩
    by_contra hlate
    obtain ⟨_, hkeys', -, -, rfl⟩ := ServerPlan.ofConfig_eq_ok_iff.1 hplan
    rw [hkeys] at hkeys'
    cases hkeys'
    have hgiven {text : Option String} (h : text ≠ some "") : text.getD "r" ≠ "" := by
      cases text with
      | none => decide
      | some text => simpa using h
    refine Server.not_serves_of_margin_lt (hfaithful _ ?_) ⟨hgiven hid, hgiven hsecret⟩ rfl rfl
      rfl ?_ (hserves "" Rsa.sampleKey (fun _ => "r") Rsa.canSign_sampleKey)
    · exact KeyAuthority.faithful_ofRsa Rsa.canSign_sampleKey
    · exact fun h => hlate (lifetime_le_margin_iff.1 h)
  · intro hrefresh
    have haccess' : c.accessTtl ≤ Instant.margin := lifetime_le_margin_iff.2 (hle.trans hrefresh)
    have hrefresh' : c.refreshTtl ≤ Instant.margin := lifetime_le_margin_iff.2 hrefresh
    have hplan := ServerPlan.ofConfig_eq_ok_iff.2 ⟨keys, hkeys,
      Instant.isRepresentable_of_le_margin (lifetime_nonneg _) haccess',
      Instant.isRepresentable_of_le_margin (lifetime_nonneg _) hrefresh', rfl⟩
    refine ⟨_, hplan, fun address key random hsigns => ?_⟩
    exact Server.serves_of_margin (hfaithful _ (KeyAuthority.faithful_ofRsa hsigns))
      ⟨lifetime_nonneg _, haccess'⟩ ⟨lifetime_nonneg _, hrefresh'⟩

/-- The configuration that is used when nothing is configured can be used. -/
theorem usable_default :
    ({} : Config).validate = .ok () ∧ KeySigns {} .missing ∧ Usable {} .missing := by
  have hvalid : ({} : Config).validate = .ok () := by decide
  have hkey : KeySigns {} .missing := by
    intro path hpath
    cases hpath
  exact ⟨hvalid, hkey, (usable_iff hvalid hkey).2 (by decide)⟩

/-- A configuration that asks only that refresh tokens last long. -/
def lasting (seconds : Nat) : Config := { tokens := ⟨600, seconds⟩ }

/-- No check refuses a lifetime for which no plan can be made, nor one for which a plan can be made
whose servers abort an exchange. -/
theorem not_usable_lasting :
    (lasting 9223372036854776).validate = .ok () ∧
      ServerPlan.ofConfig (lasting 9223372036854776) .missing = .error .lifetime ∧
      ¬ (lasting 9223372036854776).Usable .missing ∧
      (lasting 9000000000000).validate = .ok () ∧
      ∃ plan, ServerPlan.ofConfig (lasting 9000000000000) .missing = .ok plan ∧
        ¬ (plan.start "" (.ofRsa Rsa.sampleKey) fun _ => "r").Serves := by
  have hplan : ServerPlan.ofConfig (lasting 9223372036854776) .missing = .error .lifetime := rfl
  refine ⟨by decide, hplan, ?_, by decide, _, rfl, ?_⟩
  · rintro ⟨plan, hplan', -⟩
    rw [hplan] at hplan'
    cases hplan'
  · exact Server.not_serves_of_margin_lt (KeyAuthority.faithful_ofRsa Rsa.canSign_sampleKey)
      ⟨by decide, by decide⟩ rfl rfl rfl (by decide)

end Config

end OpenIdProvider
