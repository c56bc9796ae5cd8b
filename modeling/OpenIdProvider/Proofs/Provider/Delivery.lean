/-
  Redirects on their way out. Whatever the target, the code and the state are, a location is
  printable ASCII: what stands in front of its query was escaped or is the name of a host, the query
  is form data, and the fragment was escaped. So every location can stand in a header, and no
  session is begun for a request whose location is then not sent.
-/
import OpenIdProvider.Proofs.Provider.Refusal
import OpenIdProvider.Proofs.Redirect.Query

namespace OpenIdProvider

open Http

namespace Redirect

theorem isPrintable_fragmentText {u : Url} (h : u.PlainFragment) :
    ∀ c ∈ fragmentText u, Ascii.IsPrintable c := by
  intro c hc
  unfold fragmentText at hc
  split at hc
  · rename_i f hf
    rcases List.mem_cons.1 hc with rfl | hc
    · decide
    · obtain ⟨hlow, hhigh, -⟩ := Url.isKept_eq_true_iff.1 (h f hf c hc)
      exact ⟨hlow, hhigh⟩
  · cases hc

/-- A location is printable, whatever it was made of. -/
theorem isPrintable_location {target code state l : String}
    (h : location target code state = .ok l) : ∀ c ∈ l.toList, Ascii.IsPrintable c := by
  obtain ⟨u, front, hsent, hl⟩ := exists_sent h
  intro c hc
  rw [hl, afterPath_merge, List.mem_append, List.mem_cons, List.mem_append] at hc
  rcases hc with hfront | rfl | hquery | hfragment
  · exact (hsent.isFront c hfront).1
  · decide
  · exact (Form.range_of_isFormChar (Form.isFormChar_encode hquery)).imp_left Nat.le_of_lt
  · exact isPrintable_fragmentText hsent.read.fragment c hfragment

end Redirect

namespace Http.Reply

theorem isValueByte_of_isPrintable {c : Char} (h : Ascii.IsPrintable c) {b : UInt8}
    (hb : b ∈ String.utf8EncodeChar c) : Headers.isValueByte b = true := by
  obtain ⟨hlow, hhigh⟩ := h
  have hascii : c.toNat ≤ 0x7F := by omega
  rw [Utf8.utf8EncodeChar_of_ascii hascii, List.mem_singleton] at hb
  have hnat : b.toNat = c.toNat := by rw [hb, Utf8.toNat_toUInt8 hascii]
  have hle : 0x20 ≤ b := UInt8.le_iff_toNat_le.2 (hnat ▸ hlow)
  have hne : b ≠ 0x7F := by
    rintro rfl
    exact absurd hnat (by show 0x7F ≠ c.toNat; omega)
  simp [Headers.isValueByte, hle, hne]

/-- A printable text can stand in a header. -/
theorem redirect_of_isPrintable {l : String} (h : ∀ c ∈ l.toList, Ascii.IsPrintable c) :
    redirect l = ⟨302, noCache ++ [("location", l)], []⟩ := by
  refine if_pos (List.all_eq_true.2 fun b hb => ?_)
  obtain ⟨c, hc, hb⟩ := List.mem_flatMap.1 hb
  exact isValueByte_of_isPrintable (h c hc) hb

end Http.Reply

namespace Provider

/-- To a response without a body nothing is added where the method is served. -/
theorem finish_of_serves {e : Endpoint} {method : Method} (h : e.serves method = true)
    {response : Response} (hbody : response.body = []) :
    finish (some e) method response = response := by
  unfold finish
  simp only [h, if_true, hbody, ite_self]
  rw [← hbody]

end Provider

namespace Redirect

/-- A location that is sent as it is: no character of it keeps it out of the header. -/
structure Delivered (target code state l : String) : Prop where
  printable : ∀ c ∈ l.toList, 0x20 ≤ c.toNat ∧ c.toNat ≤ 0x7E
  redirect : Reply.redirect l = ⟨302, Reply.noCache ++ [("location", l)], []⟩
  /-- A request that has begun the session of the code is answered with it, and with no error. -/
  answer : ∀ (p : Provider) (s : ProviderState) (r : Request) (session : Session)
    (params : Params), (p.moment s (.request r)).Begins p session →
      Params.ofRequest r.headers r.query r.body = .ok params → session.id = code →
      params.get "redirect_uri" = target → params.get "state" = state →
      (p.respond r s).1 = some ⟨302, Reply.noCache ++ [("location", l)], []⟩

/-- Every location that can be made is delivered. -/
theorem delivered_of_location {target code state l : String}
    (h : location target code state = .ok l) : Delivered target code state l := by
  have hprintable := isPrintable_location h
  have hredirect := Reply.redirect_of_isPrintable hprintable
  refine ⟨hprintable, hredirect, ?_⟩
  rintro p s r session params hbegins hparams rfl rfl rfl
  have hserves := (Provider.reached?_eq_some_iff.1 (Provider.passes_of_begins hbegins).1).2.2
  rw [Provider.respond_of_begins hbegins hparams h, hredirect,
    Provider.finish_of_serves hserves rfl]

/-- A target, a code and a state with control characters, line breaks and letters beyond ASCII. -/
theorem delivered_of_controls :
    location "app://us\x01er@h/a b\x7F/é?x=\n1#f\x00é" "c\r\nX: y" "\x00é\x7F" =
        .ok "app://us%01er@h/a%20b%7F/%C3%A9?code=c%0D%0AX%3A+y&state=%00%C3%A9%7F&x=1#f%00%C3%A9" ∧
      Delivered "app://us\x01er@h/a b\x7F/é?x=\n1#f\x00é" "c\r\nX: y" "\x00é\x7F"
        "app://us%01er@h/a%20b%7F/%C3%A9?code=c%0D%0AX%3A+y&state=%00%C3%A9%7F&x=1#f%00%C3%A9" := by
  have hlocation : location "app://us\x01er@h/a b\x7F/é?x=\n1#f\x00é" "c\r\nX: y" "\x00é\x7F" =
      .ok "app://us%01er@h/a%20b%7F/%C3%A9?code=c%0D%0AX%3A+y&state=%00%C3%A9%7F&x=1#f%00%C3%A9" :=
    eq_ok_of_toOption (by decide +kernel)
  exact ⟨hlocation, delivered_of_location hlocation⟩

end Redirect

end OpenIdProvider
