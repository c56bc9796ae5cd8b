/-
  How a client shows its credentials. In a Basic header and in a form they are read as the same
  texts, whatever characters they have, so that a token request is answered alike with either; and
  of a header and a form the form counts.
-/
import OpenIdProvider.Proofs.Provider.IssuedCode

namespace OpenIdProvider

open Http
open Utf8 (encodeChars encodeChars_append encodeChars_cons_of_ascii)

/-! ## Credentials in a header -/

namespace Blank

theorem isBlank_of_visible {c : Char} (h : 0x20 < c.toNat ∧ c.toNat < 0x7F) :
    isBlank c = false := by
  simp only [isBlank, Bool.or_eq_false_iff, Bool.and_eq_false_iff, decide_eq_false_iff_not,
    beq_eq_false_iff_ne]
  omega

/-- Where no character is blank, there is nothing to trim. -/
theorem trim_of_visible {cs : List Char} (h : ∀ c ∈ cs, 0x20 < c.toNat ∧ c.toNat < 0x7F) :
    trim cs = cs := by
  have hkeep {ds : List Char} (hds : ∀ c ∈ ds, c ∈ cs) : ds.dropWhile isBlank = ds := by
    cases ds with
    | nil => rfl
    | cons d ds =>
      rw [List.dropWhile_cons, isBlank_of_visible (h d (hds d List.mem_cons_self))]
      rfl
  unfold trim trimEnd trimStart
  rw [hkeep fun _ hc => hc, hkeep fun _ hc => List.mem_reverse.1 hc, List.reverse_reverse]

end Blank

namespace Credentials

/-- The value of a Basic `Authorization` header with a name of the scheme. -/
def basic (c : Credentials) (scheme : String) : String :=
  scheme ++ " " ++ String.ofList
    (Base64.encode .standard .canonical (Utf8.encode (c.clientId ++ ":" ++ c.clientSecret)))

/-- The name of the scheme can be written with letters of any case. -/
theorem isLetter_of_scheme {scheme : String} (hscheme : Ascii.lower scheme = "basic") {c : Char}
    (h : c ∈ scheme.toList) : Ascii.isLetter c = true := by
  have hlower : Ascii.toLower c ∈ "basic".toList := by
    rw [← hscheme, Ascii.lower, String.toList_ofList]
    exact List.mem_map_of_mem h
  have hall : ∀ d ∈ "basic".toList, Ascii.isLetter d = true :=
    List.all_iff_forall_prop.1 (by decide)
  rw [← Ascii.isLetter_toLower]
  exact hall _ hlower

/-- Credentials are read from a header as they were written, if the name has no colon. -/
theorem ofHeaders?_of_basic {c : Credentials} (hname : ':' ∉ c.clientId.toList) {scheme : String}
    (hscheme : Ascii.lower scheme = "basic") {headers : Headers}
    (h : headers.first? "authorization" = some (Utf8.encode (c.basic scheme))) :
    ofHeaders? headers = some c := by
  have hencoded {d : Char} (hd : d ∈ Base64.encode .standard .canonical
      (Utf8.encode (c.clientId ++ ":" ++ c.clientSecret))) : 0x20 < d.toNat ∧ d.toNat < 0x7F :=
    Base64.visible_of_mem_encode hd
  have hletter {d : Char} (hd : d ∈ scheme.toList) : 0x20 < d.toNat ∧ d.toNat < 0x7F := by
    have hrange := Ascii.isLetter_iff.1 (isLetter_of_scheme hscheme hd)
    omega
  have hchars : (c.basic scheme).toList = scheme.toList ++ ' ' ::
      Base64.encode .standard .canonical (Utf8.encode (c.clientId ++ ":" ++ c.clientSecret)) := by
    simp [basic]
  have htext : headers.text? "authorization" = some (c.basic scheme).toList := by
    refine Headers.text?_of_visible h fun d hd => ?_
    rw [hchars, List.mem_append, List.mem_cons] at hd
    rcases hd with hd | rfl | hd
    · have hrange := hletter hd
      omega
    · decide
    · have hrange := hencoded hd
      omega
  have hspace : ' ' ∉ scheme.toList := fun hd => absurd (hletter hd) (by decide)
  have hlower : scheme.toList.map Ascii.toLower = "basic".toList := by
    rw [← hscheme, Ascii.lower, String.toList_ofList]
  have hdecoded : Base64.decode .standard .canonical (encodeChars (Blank.trim
      (Base64.encode .standard .canonical (Utf8.encode (c.clientId ++ ":" ++ c.clientSecret))))) =
      .ok (Utf8.encode (c.clientId ++ ":" ++ c.clientSecret)) := by
    rw [Blank.trim_of_visible fun _ => hencoded, Base64.decode_encode]
  have hread : Utf8.decodeChars? (Utf8.encode (c.clientId ++ ":" ++ c.clientSecret)) =
      some (c.clientId.toList ++ ':' :: c.clientSecret.toList) := by
    rw [Utf8.encode, Utf8.decodeChars?_encodeChars]
    simp
  simp only [ofHeaders?, htext, hchars, Split.splitOnce_append hspace, hlower, hdecoded,
    Except.toOption, hread, Split.splitOnce_append hname, Option.bind_eq_bind, Option.bind_some,
    ne_eq, not_true_eq_false, if_false, String.ofList_toList]

/-- Without the header there are no credentials in it. -/
theorem ofHeaders?_of_absent {headers : Headers} (h : headers.first? "authorization" = none) :
    ofHeaders? headers = none := by
  unfold ofHeaders? Headers.text?
  rw [h]
  rfl

end Credentials

/-! ## Credentials in a form -/

namespace Form

/-- Form data with one more pair: in front of the others, or after some whose escapes are whole. An
escape that is cut short by the end of the data is refused with a text that shows what is left of
it; a pair behind it would change that text. -/
inductive Adds (pair : String × String) : List UInt8 → List UInt8 → Prop
  | alone : Adds pair [] (encodeChars (encodePair pair))
  | before (body : List UInt8) : Adds pair body (encodeChars (encodePair pair) ++ 0x26 :: body)
  | after {front : List UInt8} (whole : Percent.badEscape? front = none) :
      Adds pair front (front ++ 0x26 :: encodeChars (encodePair pair))
  | between {front back : List UInt8} (whole : Percent.badEscape? front = none) :
      Adds pair (front ++ 0x26 :: back)
        (front ++ 0x26 :: (encodeChars (encodePair pair) ++ 0x26 :: back))

/-- It is read as one more pair. -/
theorem Adds.decode {pair : String × String} {body body' : List UInt8} (h : Adds pair body body') :
    ∃ front back, Form.decode body = front ++ back ∧ Form.decode body' = front ++ pair :: back := by
  have hpair : Form.decode (encodeChars (encodePair pair)) = [pair] := decode_encode [pair]
  cases h with
  | alone => exact ⟨[], [], rfl, hpair⟩
  | before => exact ⟨[], _, rfl, by rw [decode_append, hpair]; rfl⟩
  | after whole => exact ⟨_, [], (List.append_nil _).symm, by rw [decode_append, hpair]⟩
  | between whole =>
    refine ⟨_, _, decode_append _ _, ?_⟩
    rw [decode_append, decode_append, hpair]
    rfl

theorem Adds.badEscape? {pair : String × String} {body body' : List UInt8}
    (h : Adds pair body body') : Percent.badEscape? body' = Percent.badEscape? body := by
  have hpair : Percent.badEscape? (encodeChars (encodePair pair)) = none := badEscape?_encode [pair]
  have hnext (rest : List UInt8) : Percent.badEscape? (0x26 :: rest) = Percent.badEscape? rest :=
    Percent.badEscape?_cons_of_ne (by decide) rest
  cases h with
  | alone => exact hpair
  | before => rw [Percent.badEscape?_append hpair, hnext]
  | after whole => rw [Percent.badEscape?_append whole, hnext, hpair, whole]
  | between whole =>
    rw [Percent.badEscape?_append whole, Percent.badEscape?_append whole, hnext, hnext,
      Percent.badEscape?_append hpair, hnext]

/-- A name that was absent is so still, if the pair has another. -/
theorem Adds.absent {pair : String × String} {body body' : List UInt8} (h : Adds pair body body')
    {name : String} (hne : pair.1 ≠ name) (habsent : ∀ q ∈ Form.decode body, q.1 ≠ name) :
    ∀ q ∈ Form.decode body', q.1 ≠ name := by
  obtain ⟨front, back, hbody, hbody'⟩ := h.decode
  rw [hbody, List.forall_mem_append] at habsent
  rw [hbody', List.forall_mem_append, List.forall_mem_cons]
  exact ⟨habsent.1, hne, habsent.2⟩

/-- One more pair gives its name a value, if the name had none. -/
theorem Adds.get {name value : String} {body body' : List UInt8}
    (h : Adds (name, value) body body') (habsent : ∀ pair ∈ Form.decode body, pair.1 ≠ name)
    (query : List (String × String)) (other : String) :
    Params.get ⟨Form.decode body' ++ query⟩ other =
      if other = name then value else Params.get ⟨Form.decode body ++ query⟩ other := by
  obtain ⟨front, back, hbody, hbody'⟩ := h.decode
  have hfront : front.lookup name = none := by
    rw [List.lookup_eq_none_iff]
    intro pair hpair
    have hne := habsent pair (hbody ▸ List.mem_append_left _ hpair)
    simpa using hne.symm
  unfold Params.get
  simp only [hbody, hbody', List.lookup_append, List.lookup_cons]
  by_cases hname : other = name
  · rw [if_pos hname, hname, hfront]
    simp
  · have hne : (other == name) = false := by simpa using hname
    rw [if_neg hname, hne]

end Form

namespace Params

/-- The parameters of a request with a form, if all escapes are whole. -/
theorem ofRequest_of_form {headers : Headers} (h : declaresForm headers = true)
    (query : Option (List UInt8)) (body : List UInt8) :
    ofRequest headers query body = (checkEscapes body).bind fun _ =>
      (query.elim (.ok ()) checkEscapes).bind fun _ => .ok (ofForms query body) := by
  unfold ofRequest
  rw [h]
  cases query <;> rfl

end Params

namespace Provider

/-! ## Requests that are answered alike -/

/-- The answer at the token endpoint depends on the values of the parameters only. -/
theorem exchange_congr {p : Provider} {params params' : Params} (h : params.get = params'.get)
    (s : ProviderState) : p.exchange params s = p.exchange params' s := by
  have hall (names : List String) :
      Validation.requireAll params names = Validation.requireAll params' names := by
    unfold Validation.requireAll
    rw [h]
  have hequal (name expected : String) (kind : ErrorKind) (message : String) :
      Validation.requireEqual params name expected kind message =
        Validation.requireEqual params' name expected kind message := by
    unfold Validation.requireEqual
    rw [h]
  simp only [exchange, requestedGrant, grantedSession, redeem, resume, requireGrant, hall, hequal,
    h]

theorem respond_congr {p : Provider} {r r' : Request} (hmethod : r.method = r'.method)
    (hpath : r.path = r'.path) (htoken : Endpoint.ofPath? r.path = some .token)
    (hparams : (exchangeParams r).map Params.get = (exchangeParams r').map Params.get)
    (s : ProviderState) : p.respond r s = p.respond r' s := by
  have hserve : p.serve .token r s = p.serve .token r' s := by
    simp only [serve]
    cases hr : exchangeParams r with
    | error e =>
      cases hr' : exchangeParams r' with
      | error e' =>
        rw [hr, hr'] at hparams
        cases hparams
        rfl
      | ok params' =>
        rw [hr, hr'] at hparams
        cases hparams
    | ok params =>
      cases hr' : exchangeParams r' with
      | error e' =>
        rw [hr, hr'] at hparams
        cases hparams
      | ok params' =>
        rw [hr, hr'] at hparams
        simp only [exchange_congr (Except.ok.inj hparams) s]
  unfold respond
  rw [← hpath, ← hmethod, htoken]
  simp only [hserve]

/-- A token request whose client shows its credentials in a Basic header, and one that is alike but
for showing them in its form. -/
structure ShowsAlike (c : Credentials) (r r' : Request) : Prop where
  token : Endpoint.ofPath? r.path = some .token
  method : r.method = r'.method
  path : r.path = r'.path
  query : r.query = r'.query
  isForm : Params.declaresForm r.headers = true
  isForm' : Params.declaresForm r'.headers = true
  absent : ∀ pair ∈ Form.decode r.body ++ Form.decode (r.query.getD []),
    pair.1 ≠ "client_id" ∧ pair.1 ≠ "client_secret"
  header : ∃ scheme, Ascii.lower scheme = "basic" ∧
    r.headers.first? "authorization" = some (Utf8.encode (c.basic scheme))
  noHeader : r'.headers.first? "authorization" = none
  form : ∃ body,
    Form.Adds ("client_id", c.clientId) r.body body ∧
      Form.Adds ("client_secret", c.clientSecret) body r'.body ∨
    Form.Adds ("client_secret", c.clientSecret) r.body body ∧
      Form.Adds ("client_id", c.clientId) body r'.body

/-- Two token requests that are alike but for their headers. -/
structure AlikeButHeaders (r r' : Request) : Prop where
  token : Endpoint.ofPath? r.path = some .token
  method : r.method = r'.method
  path : r.path = r'.path
  query : r.query = r'.query
  body : r.body = r'.body
  isForm : Params.declaresForm r.headers = Params.declaresForm r'.headers

/-- Both forms have the same bad escape, or are read with the same values. -/
theorem ShowsAlike.reads {c : Credentials} {r r' : Request} (h : ShowsAlike c r r') :
    Percent.badEscape? r'.body = Percent.badEscape? r.body ∧ ∀ name,
      (Params.ofForms r'.query r'.body).get name =
        if name = "client_id" then c.clientId
        else if name = "client_secret" then c.clientSecret
        else (Params.ofForms r.query r.body).get name := by
  have hid : ∀ pair ∈ Form.decode r.body, pair.1 ≠ "client_id" :=
    fun pair hpair => (h.absent pair (List.mem_append_left _ hpair)).1
  have hsecret : ∀ pair ∈ Form.decode r.body, pair.1 ≠ "client_secret" :=
    fun pair hpair => (h.absent pair (List.mem_append_left _ hpair)).2
  have hne : "client_id" ≠ "client_secret" := by decide
  obtain ⟨body, ⟨hfirst, hsecond⟩ | ⟨hfirst, hsecond⟩⟩ := h.form
  · refine ⟨hsecond.badEscape?.trans hfirst.badEscape?, fun name => ?_⟩
    rw [← h.query, Params.ofForms, hsecond.get (hfirst.absent hne hsecret),
      hfirst.get hid]
    by_cases hname : name = "client_secret"
    · rw [if_pos hname, if_pos hname, if_neg (by rw [hname]; decide)]
    · rw [if_neg hname, if_neg hname]
      rfl
  · refine ⟨hsecond.badEscape?.trans hfirst.badEscape?, fun name => ?_⟩
    rw [← h.query, Params.ofForms, hsecond.get (hfirst.absent hne.symm hid),
      hfirst.get hsecret]
    rfl

/-- Neither credential is among the parameters that the header stands in for. -/
theorem ShowsAlike.get_eq {c : Credentials} {r r' : Request} (h : ShowsAlike c r r') :
    (((Params.ofForms r.query r.body).setDefault "client_id" c.clientId).setDefault "client_secret"
      c.clientSecret).get = (Params.ofForms r'.query r'.body).get := by
  have hnone {name : String} (hname : name = "client_id" ∨ name = "client_secret") :
      (Params.ofForms r.query r.body).get name = "" := by
    have hlookup : (Params.ofForms r.query r.body).pairs.lookup name = none := by
      rw [List.lookup_eq_none_iff]
      intro pair hpair
      obtain ⟨hid, hsecret⟩ := h.absent pair hpair
      rcases hname with rfl | rfl
      · simpa using hid.symm
      · simpa using hsecret.symm
    unfold Params.get
    rw [hlookup]
    rfl
  funext name
  rw [h.reads.2 name, Params.get_setDefault, Params.get_setDefault, Params.get_setDefault,
    hnone (.inl rfl), hnone (.inr rfl)]
  by_cases hid : name = "client_id"
  · subst hid
    simp
  · simp [hid]

theorem exchangeParams_of_showsAlike {c : Credentials} {r r' : Request} (h : ShowsAlike c r r')
    (hname : ':' ∉ c.clientId.toList) :
    (exchangeParams r).map Params.get = (exchangeParams r').map Params.get := by
  obtain ⟨scheme, hscheme, hheader⟩ := h.header
  have hget := h.get_eq
  rw [← h.query] at hget
  have hcheck : Params.checkEscapes r'.body = Params.checkEscapes r.body := by
    unfold Params.checkEscapes
    rw [h.reads.1]
  unfold exchangeParams
  rw [Credentials.ofHeaders?_of_basic hname hscheme hheader,
    Credentials.ofHeaders?_of_absent h.noHeader, Params.ofRequest_of_form h.isForm,
    Params.ofRequest_of_form h.isForm', hcheck, ← h.query]
  cases Params.checkEscapes r.body with
  | error e => rfl
  | ok u =>
    cases r.query.elim (.ok ()) Params.checkEscapes with
    | error e => rfl
    | ok u => exact congrArg Except.ok hget

/-- A header counts only for what the form does not say. -/
theorem exchangeParams_of_alikeButHeaders {r r' : Request} (h : AlikeButHeaders r r')
    {c c' : Credentials} (hc : Credentials.ofHeaders? r.headers = some c)
    (hc' : Credentials.ofHeaders? r'.headers = some c')
    (hsame : ∀ params, Params.ofRequest r.headers r.query r.body = .ok params →
      (c.clientId = c'.clientId ∨ params.get "client_id" ≠ "") ∧
        (c.clientSecret = c'.clientSecret ∨ params.get "client_secret" ≠ "")) :
    (exchangeParams r).map Params.get = (exchangeParams r').map Params.get := by
  have hread : Params.ofRequest r.headers r.query r.body =
      Params.ofRequest r'.headers r'.query r'.body := by
    unfold Params.ofRequest
    rw [h.isForm, h.query, h.body]
  have hdefault {params : Params} {name value value' : String}
      (hvalue : value = value' ∨ params.get name ≠ "") :
      params.setDefault name value = params.setDefault name value' := by
    unfold Params.setDefault
    rcases hvalue with rfl | hne
    · rfl
    · rw [if_neg hne, if_neg hne]
  unfold exchangeParams
  rw [hc, hc', ← hread]
  cases hparams : Params.ofRequest r.headers r.query r.body with
  | error e => rfl
  | ok params =>
    obtain ⟨hid, hsecret⟩ := hsame params hparams
    have hsecret' : c.clientSecret = c'.clientSecret ∨
        (params.setDefault "client_id" c'.clientId).get "client_secret" ≠ "" := by
      rwa [Params.get_setDefault, if_neg (by simp)]
    have hdefaults : (params.setDefault "client_id" c.clientId).setDefault "client_secret"
        c.clientSecret = (params.setDefault "client_id" c'.clientId).setDefault "client_secret"
        c'.clientSecret := by
      rw [hdefault hid, hdefault hsecret']
    exact congrArg (fun params => Except.ok params.get) hdefaults

/-- How the two ways to show credentials go together: in a Basic header they are worth what they
are in a form, and where the form says one of them, that of the header does not matter. -/
structure ClientsAgree (p : Provider) (s : ProviderState) : Prop where
  alike : ∀ (c : Credentials) (r r' : Request), ShowsAlike c r r' → ':' ∉ c.clientId.toList →
    p.respond r s = p.respond r' s
  formCounts : ∀ (c c' : Credentials) (r r' : Request), AlikeButHeaders r r' →
    Credentials.ofHeaders? r.headers = some c → Credentials.ofHeaders? r'.headers = some c' →
    (∀ params, Params.ofRequest r.headers r.query r.body = .ok params →
      (c.clientId = c'.clientId ∨ params.get "client_id" ≠ "") ∧
        (c.clientSecret = c'.clientSecret ∨ params.get "client_secret" ≠ "")) →
    p.respond r s = p.respond r' s

/-- They go together in every state. -/
theorem clientsAgree (p : Provider) (s : ProviderState) : ClientsAgree p s where
  alike _ _ _ h hname := respond_congr h.method h.path h.token
    (exchangeParams_of_showsAlike h hname) s
  formCounts _ _ _ _ h hc hc' hsame := respond_congr h.method h.path h.token
    (exchangeParams_of_alikeButHeaders h hc hc' hsame) s

/-- A token request of the sample client with its credentials in a header. -/
def headedForm : Request :=
  { postedForm [("grant_type", "authorization_code"), ("code", "c")] with
    headers := [⟨"authorization", Utf8.encode "bAsIc YXBwOnNlY3JldA=="⟩,
      ⟨"content-type", Utf8.encode Form.mediaType⟩] }

theorem showsAlike_headedForm :
    ShowsAlike ⟨"app", "secret"⟩ headedForm
      (postedForm (sample.grantForm .authorizationCode "c")) where
  token := rfl
  method := rfl
  path := rfl
  query := rfl
  isForm := by decide +kernel
  isForm' := by decide +kernel
  absent := by decide +kernel
  header := ⟨"bAsIc", by decide, by decide +kernel⟩
  noHeader := rfl
  form := by
    have hbody : (postedForm (sample.grantForm .authorizationCode "c")).body =
        encodeChars (Form.encodePair ("client_id", "app")) ++ 0x26 ::
          (encodeChars (Form.encodePair ("client_secret", "secret")) ++
            0x26 :: headedForm.body) := by
      decide +kernel
    rw [hbody]
    exact ⟨_, .inr ⟨.before _, .before _⟩⟩

/-- The code is redeemed with either request. -/
theorem clientsAgree_headedForm :
    ShowsAlike ⟨"app", "secret"⟩ headedForm
        (postedForm (sample.grantForm .authorizationCode "c")) ∧
      sample.respond headedForm (sampleState false 0) =
        sample.respond (postedForm (sample.grantForm .authorizationCode "c"))
          (sampleState false 0) ∧
      (sample.respond headedForm (sampleState false 0)).1.map Response.status = some 200 ∧
      (sample.respond headedForm (sampleState false 0)).2.store = (sampleState true 0).store :=
  ⟨showsAlike_headedForm,
    (clientsAgree sample (sampleState false 0)).alike _ _ _ showsAlike_headedForm (by decide),
    by decide +kernel, by decide +kernel⟩

end Provider

end OpenIdProvider
