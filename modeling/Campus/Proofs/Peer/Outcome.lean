import Campus.Proofs.Peer.Address
import Campus.Proofs.Peer.Refusal

/-! # What an exchange comes to

Everything that a request to a peer can end with, told from the outside: from when its caller is cancelled, how much time it has,
whether a request can be made out for it, and what the other end does when. Three instants race for a request that was sent, and
the first of them decides. What an answer means is settled by its status, and for a success by its body.
-/
namespace Campus.Peer

variable {α : Type} [Wire α]

/-! ## What an answer means -/

/-- The text of a body that reports a fault: of its envelope if it is one, and else of the whole body, with marks for what cannot
be read. -/
inductive Reports (body : List UInt8) : String → Prop where
  | envelope {envelope : ErrorEnvelope} (hbody : Wire.decodeGlyphs (Text.Utf8.places body) = .ok envelope) :
    Reports body envelope.error
  | plain {flaw : Json.Flaw}
      (hbody : (Wire.decodeGlyphs (Text.Utf8.places body) : Except Json.Flaw ErrorEnvelope) = .error flaw) :
    Reports body (String.ofList (Text.Utf8.lossy body))

/-- What an answer means to the caller who asked for an id. -/
inductive Means (e : Endpoint) (id : String) (status : Nat) (body : List UInt8) : Except Fault α → Prop where
  | record {a : α} (hstatus : 200 ≤ status ∧ status < 300) (hbody : Wire.decodeGlyphs (Text.Utf8.places body) = .ok a) :
    Means e id status body (.ok a)
  | malformed {flaw : Json.Flaw} (hstatus : 200 ≤ status ∧ status < 300)
      (hbody : (Wire.decodeGlyphs (Text.Utf8.places body) : Except Json.Flaw α) = .error flaw) :
    Means e id status body (.error (.remoteUnavailable e.dependency "malformed body"))
  | notFound (hstatus : status = 404) : Means e id status body (.error (.notFound e.entity id))
  | unavailable {text : String}
      (hstatus : status = 429 ∨ ¬(200 ≤ status ∧ status < 300) ∧ ¬(400 ≤ status ∧ status < 500)) (htext : Reports body text) :
    Means e id status body (.error (.remoteUnavailable e.dependency s!"{Http.statusText status}: {text}"))
  | invalid {text : String} (hstatus : 400 ≤ status ∧ status < 500) (hfound : status ≠ 404) (hmany : status ≠ 429)
      (htext : Reports body text) :
    Means e id status body (.error (.validation s!"{e.dependency} rejected {Text.quote id}: {text}"))

theorem reports_iff {body : List UInt8} {text : String} : Reports body text ↔ complaint body = text := by
  unfold complaint
  constructor
  · rintro (hbody | hbody) <;> rw [hbody]
  · rintro rfl
    split
    case h_1 envelope hbody => exact .envelope hbody
    case h_2 flaw hbody => exact .plain hbody

theorem isSuccess_iff {status : Nat} : Http.isSuccess status = true ↔ 200 ≤ status ∧ status < 300 := by
  simp [Http.isSuccess]

theorem isClientError_iff {status : Nat} : Http.isClientError status = true ↔ 400 ≤ status ∧ status < 500 := by
  simp [Http.isClientError]

theorem means_iff {e : Endpoint} {id : String} {status : Nat} {body : List UInt8} {r : Except Fault α} :
    Means e id status body r ↔ interpret e id status body = r := by
  constructor
  · intro h
    cases h with
    | record hstatus hbody => rw [interpret, if_pos (isSuccess_iff.mpr hstatus), hbody]
    | malformed hstatus hbody => rw [interpret, if_pos (isSuccess_iff.mpr hstatus), hbody]
    | notFound hstatus =>
      subst hstatus
      rfl
    | unavailable hstatus htext =>
      have hother : ¬Http.isSuccess status = true := by
        rw [isSuccess_iff]
        omega
      have hfound : status ≠ 404 := by omega
      have hpeer : status = 429 ∨ (!Http.isClientError status) = true := by
        rw [Bool.not_eq_true', ← Bool.not_eq_true, isClientError_iff]
        exact hstatus.imp_right And.right
      rw [interpret, if_neg hother, refusal, if_neg hfound, if_pos hpeer, reports_iff.mp htext]
    | invalid hstatus hfound hmany htext =>
      have hother : ¬Http.isSuccess status = true := by
        rw [isSuccess_iff]
        omega
      have hcaller : ¬(status = 429 ∨ (!Http.isClientError status) = true) := by
        simp [hmany, isClientError_iff.mpr hstatus]
      rw [interpret, if_neg hother, refusal, if_neg hfound, if_neg hcaller, reports_iff.mp htext]
  · rintro rfl
    unfold interpret
    by_cases hsuccess : Http.isSuccess status = true
    · rw [if_pos hsuccess]
      rw [isSuccess_iff] at hsuccess
      split
      case h_1 a hbody => exact .record hsuccess hbody
      case h_2 flaw hbody => exact .malformed hsuccess hbody
    rw [if_neg hsuccess, refusal]
    rw [isSuccess_iff] at hsuccess
    split_ifs with hfound hpeer
    · exact .notFound hfound
    · rw [Bool.not_eq_true', ← Bool.not_eq_true, isClientError_iff] at hpeer
      exact .unavailable (hpeer.imp_right fun hclient => ⟨hsuccess, hclient⟩) (reports_iff.mpr rfl)
    · rw [Bool.not_eq_true', ← Bool.not_eq_true, isClientError_iff, not_or, not_not] at hpeer
      exact .invalid hpeer.2 hfound hpeer.1 (reports_iff.mpr rfl)

/-! ## What comes first -/

/-- When a request that was sent is over by itself, and with what for a caller who had so many milliseconds. -/
inductive Replies (network : Network) (e : Endpoint) (id : String) (out : Outgoing) (now : Instant) (millis : Nat) :
    Instant → Except Fault α → Prop where
  /-- The client gave up for want of a connection. -/
  | unconnected {t : Instant} {reason : String} (hends : Ends network mostRedirects now out t (.failed true reason)) :
    Replies network e id out now millis t (.error (.remoteTimeout e.dependency millis))
  | failed {t : Instant} {reason : String} (hends : Ends network mostRedirects now out t (.failed false reason)) :
    Replies network e id out now millis t (.error (.remoteUnavailable e.dependency reason))
  | answered {t : Instant} {status : Nat} {body : List UInt8} {r : Except Fault α}
      (hends : Ends network mostRedirects now out t (.answered status body)) (hmeans : Means e id status body r) :
    Replies network e id out now millis t r

section Replies

variable {network : Network} {e : Endpoint} {id : String} {out : Outgoing} {now t : Instant} {millis : Nat} {r : Except Fault α}

theorem replies_iff : Replies network e id out now millis t r ↔
    ((follow network mostRedirects now out).arrival.map fun (t, arrival) => (t, outcome e id millis arrival)) = some (t, r) := by
  simp only [Option.map_eq_some_iff, Prod.exists, Prod.mk.injEq, ← ends_iff]
  constructor
  · intro h
    cases h with
    | unconnected hends => exact ⟨t, _, hends, rfl, rfl⟩
    | failed hends => exact ⟨t, _, hends, rfl, rfl⟩
    | answered hends hmeans => exact ⟨t, _, hends, rfl, means_iff.mp hmeans⟩
  · rintro ⟨t, arrival, hends, rfl, rfl⟩
    cases arrival with
    | failed timedOut reason =>
      cases timedOut with
      | true => exact .unconnected hends
      | false => exact .failed hends
    | answered status body => exact .answered hends (means_iff.mpr rfl)

theorem replies_eq : (Replies network e id out now millis : Instant → Except Fault α → Prop) = fun t r =>
    ((follow network mostRedirects now out).arrival.map fun (t, arrival) => (t, outcome e id millis arrival)) = some (t, r) :=
  funext fun _ => funext fun _ => propext replies_iff

theorem Replies.le (h : Replies network e id out now millis t r) : now ≤ t := by
  cases h with
  | unconnected hends => exact hends.le
  | failed hends => exact hends.le
  | answered hends hmeans => exact hends.le

end Replies

/-- What decides a request that was sent: its caller who is cancelled, the deadline, or the reply, whichever comes first. A caller
who runs out of time is told how much there was. -/
inductive Decides (e : Endpoint) (now deadline : Instant) (stop : Option Instant) (reply : Instant → Except Fault α → Prop) :
    Attempt α → Prop where
  | cancelled {c : Instant} (hstop : c ∈ stop) (htime : c < deadline) (hreply : ∀ t r, reply t r → c < t) :
    Decides e now deadline stop reply ⟨true, c - now, .returned (.error .cancelled)⟩
  | expired (hstop : ∀ c ∈ stop, deadline < c) (hreply : ∀ t r, reply t r → deadline < t) :
    Decides e now deadline stop reply
      ⟨true, deadline - now, .returned (.error (.remoteTimeout e.dependency (Span.toMillis (deadline - now))))⟩
  | answered {t : Instant} {r : Except Fault α} (hreply : reply t r) (htime : t < deadline) (hstop : ∀ c ∈ stop, t < c) :
    Decides e now deadline stop reply ⟨true, t - now, .returned r⟩

section Race

variable {e : Endpoint} {now deadline : Instant} {stop : Option Instant} {result : Option (Instant × Except Fault α)}

omit [Wire α] in
/-- A request that nothing answers in time is cancelled by its caller, if that comes before the deadline. -/
theorem race_unanswered (hnow : now < deadline) (hlate : ∀ t r, result = some (t, r) → deadline < t) :
    race e now deadline stop result = match stop with
      | some c => if c ≤ deadline then ⟨true, c - now, .returned (.error .cancelled)⟩
        else ⟨true, deadline - now, .returned (.error (.remoteTimeout e.dependency (Span.toMillis (deadline - now))))⟩
      | none => ⟨true, deadline - now, .returned (.error (.remoteTimeout e.dependency (Span.toMillis (deadline - now))))⟩ := by
  have hdelay : now + (deadline - now) = deadline := Nat.add_sub_cancel' (Nat.le_of_lt hnow)
  cases result with
  | none => cases stop <;> simp [race, hdelay]
  | some reply =>
    obtain ⟨t, r⟩ := reply
    have ht : ¬t < deadline := Nat.not_lt.mpr (Nat.le_of_lt (hlate t r rfl))
    cases stop <;> simp [race, ht, hdelay]

omit [Wire α] in
/-- A reply that does not come at the deadline comes after it or in time. -/
theorem late_or_in_time (hreply : ∀ t r, result = some (t, r) → now ≤ t ∧ t ≠ deadline) :
    (∀ t r, result = some (t, r) → deadline < t) ∨ ∃ t r, result = some (t, r) ∧ now ≤ t ∧ t < deadline := by
  cases result with
  | none => exact .inl (by simp)
  | some reply =>
    obtain ⟨t, r⟩ := reply
    obtain ⟨hearly, hne⟩ := hreply t r rfl
    obtain hlt | hgt := Nat.lt_or_gt_of_ne hne
    · exact .inr ⟨t, r, rfl, hearly, hlt⟩
    · refine .inl fun t' r' hr => ?_
      cases hr
      exact hgt

-- The three instants are distinct, and a reply does not come before its request.
variable (hnow : now < deadline) (hreply : ∀ t r, result = some (t, r) → now ≤ t ∧ t ≠ deadline)
  (hstop : ∀ c ∈ stop, c ≠ deadline ∧ ∀ t r, result = some (t, r) → c ≠ t)

include hnow hreply hstop

omit [Wire α] in
theorem decides_iff {a : Attempt α} :
    Decides e now deadline stop (fun t r => result = some (t, r)) a ↔ race e now deadline stop result = a := by
  constructor
  · intro h
    cases h with
    | @cancelled c hc htime hfirst =>
      obtain rfl : stop = some c := hc
      obtain hlate | ⟨t, r, rfl, hearly, hintime⟩ := late_or_in_time hreply
      · rw [race_unanswered hnow hlate]
        exact if_pos (Nat.le_of_lt htime)
      · rw [race_replied hearly hintime]
        exact if_pos (Nat.le_of_lt (hfirst t r rfl))
    | expired hlater hlate =>
      rw [race_unanswered hnow hlate]
      cases stop with
      | none => rfl
      | some c => exact if_neg (Nat.not_le.mpr (hlater c rfl))
    | @answered t r hresult htime hlater =>
      rw [hresult, race_replied (hreply t r hresult).1 htime]
      cases stop with
      | none => rfl
      | some c => exact if_neg (Nat.not_le.mpr (hlater c rfl))
  · rintro rfl
    obtain hlate | ⟨t, r, rfl, hearly, hintime⟩ := late_or_in_time hreply
    · rw [race_unanswered hnow hlate]
      cases stop with
      | none => exact .expired (by simp) hlate
      | some c =>
        have hc := hstop c rfl
        dsimp only
        split_ifs with hle
        · have hlt := Nat.lt_of_le_of_ne hle hc.1
          exact .cancelled rfl hlt fun t r hr => Nat.lt_trans hlt (hlate t r hr)
        · exact .expired (by simpa using Nat.lt_of_not_le hle) hlate
    · rw [race_replied hearly hintime]
      cases stop with
      | none => exact .answered rfl hintime (by simp)
      | some c =>
        have hc := hstop c rfl
        dsimp only
        split_ifs with hle
        · have hlt := Nat.lt_of_le_of_ne hle (hc.2 t r rfl)
          refine .cancelled rfl (Nat.lt_trans hlt hintime) fun t' r' hr => ?_
          cases hr
          exact hlt
        · exact .answered rfl hintime (by simpa using Nat.lt_of_not_le hle)

end Race

/-! ## All that an exchange comes to -/

/-- What an exchange comes to for a caller who is cancelled at `stop`, if at all. -/
inductive Concludes (network : Network) (e : Endpoint) (d : Destination) (now : Instant) (stop : Option Instant)
    (context : Context) (id : String) : Attempt α → Prop where
  /-- The caller was cancelled before. -/
  | cancelled {c : Instant} (hstop : c ∈ stop) (hpast : c ≤ now) :
    Concludes network e d now stop context id (unsent .cancelled)
  /-- The deadline has passed. -/
  | expired (hstop : ∀ c ∈ stop, now < c) (htime : context.deadline ≤ now) :
    Concludes network e d now stop context id (unsent (.remoteTimeout e.dependency 0))
  /-- The id of the inbound request cannot be passed on. -/
  | unheaded (hstop : ∀ c ∈ stop, now < c) (htime : now < context.deadline)
      (hheader : context.requestId.all Http.isHeaderValue = false) :
    Concludes network e d now stop context id (unsent (.remoteUnavailable e.dependency "builder error"))
  /-- The address is none for a request. -/
  | unaddressed {url : Url} (hstop : ∀ c ∈ stop, now < c) (htime : now < context.deadline)
      (hheader : context.requestId.all Http.isHeaderValue = true) (hurl : d.path.resolve d.base id = .ok url)
      (hsendable : isSendable url.withoutCredentials = false) :
    Concludes network e d now stop context id
      (unsent (.remoteUnavailable e.dependency s!"builder error for url ({url.withoutCredentials.text})"))
  | sent {url : Url} {a : Attempt α} (hstop : ∀ c ∈ stop, now < c) (htime : now < context.deadline)
      (hheader : context.requestId.all Http.isHeaderValue = true) (hurl : d.path.resolve d.base id = .ok url)
      (hsendable : isSendable url.withoutCredentials = true)
      (hdecides : Decides e now context.deadline stop
        (Replies network e id ⟨url, context.requestId⟩ now (Span.toMillis (context.deadline - now))) a) :
    Concludes network e d now stop context id a

/-! No end of an exchange blames the configuration. -/

section Configuration

variable {network : Network} {e : Endpoint} {d : Destination} {now : Instant} {stop : Option Instant} {context : Context}
  {id : String}

theorem Means.ne_configuration {status : Nat} {body : List UInt8} {r : Except Fault α} (h : Means e id status body r)
    (text : String) : r ≠ .error (.configuration text) := by
  cases h <;> simp

theorem Replies.ne_configuration {out : Outgoing} {t : Instant} {millis : Nat} {r : Except Fault α}
    (h : Replies network e id out now millis t r) (text : String) : r ≠ .error (.configuration text) := by
  cases h with
  | unconnected => simp
  | failed => simp
  | answered hends hmeans => exact hmeans.ne_configuration text

theorem Concludes.ne_configuration {a : Attempt α} (h : Concludes network e d now stop context id a) (text : String) :
    a.ending ≠ .returned (.error (.configuration text)) := by
  cases h with
  | sent hstop htime hheader hurl hsendable hdecides =>
    cases hdecides with
    | cancelled => simp
    | expired => simp
    | answered hreply => exact fun h => hreply.ne_configuration text (Ending.returned.inj h)
  | _ => simp [unsent]

end Configuration

section Exchange

variable {network : Network} {e : Endpoint} {d : Destination} {now : Instant} {stop : Option Instant} {ts : Tokens}
  {context : Context} {id : String} {url : Url}

/-- What an exchange comes to is told by when its caller is cancelled, when its time is over and when the reply comes. -/
theorem concludes_iff {a : Attempt α} (hurl : d.path.resolve d.base id = .ok url)
    (htoken : ts.isCancelled context.token = true ↔ ∃ c ∈ stop, c ≤ now) (hdistinct : ∀ c ∈ stop, c ≠ context.deadline)
    (hreply : ∀ t (r : Except Fault α),
      Replies network e id ⟨url, context.requestId⟩ now (Span.toMillis (context.deadline - now)) t r →
        t ≠ context.deadline ∧ ∀ c ∈ stop, c ≠ t) :
    Concludes network e d now stop context id a ↔ exchange network e d now stop ts context id = a := by
  have hlive : (∀ c ∈ stop, now < c) ↔ ts.isCancelled context.token = false := by
    rw [← Bool.not_eq_true, htoken]
    simp only [not_exists, not_and, Nat.not_le]
  have hdecides : now < context.deadline →
      (Decides e now context.deadline stop
          (Replies network e id ⟨url, context.requestId⟩ now (Span.toMillis (context.deadline - now))) a ↔
        race e now context.deadline stop
          ((follow network mostRedirects now ⟨url, context.requestId⟩).arrival.map fun (t, arrival) =>
            (t, outcome e id (Span.toMillis (context.deadline - now)) arrival)) = a) := by
    intro htime
    rw [replies_eq]
    refine decides_iff htime (fun t r hr => ?_) fun c hc => ⟨hdistinct c hc, fun t r hr => ?_⟩
    · have hr := replies_iff.mpr hr
      exact ⟨hr.le, (hreply t r hr).1⟩
    · exact (hreply t r (replies_iff.mpr hr)).2 c hc
  constructor
  · intro h
    cases h with
    | cancelled hstop hpast => rw [exchange, prepares_iff.mp (.cancelled hurl (htoken.mpr ⟨_, hstop, hpast⟩))]
    | expired hstop htime => rw [exchange, prepares_iff.mp (.expired hurl (hlive.mp hstop) htime)]
    | unheaded hstop htime hheader => rw [exchange, prepares_iff.mp (.unheaded hurl (hlive.mp hstop) htime hheader)]
    | unaddressed hstop htime hheader haddress hsendable =>
      rw [exchange, prepares_iff.mp (.unsendable haddress (hlive.mp hstop) htime hheader hsendable)]
    | sent hstop htime hheader haddress hsendable hdecided =>
      obtain rfl := Except.ok.inj (hurl.symm.trans haddress)
      rw [exchange, prepares_iff.mp (.ready haddress (hlive.mp hstop) htime hheader hsendable)]
      exact (hdecides htime).mp hdecided
  · intro h
    have hprepares : Prepares e d ts now context id (prepare e d ts now context id) := prepares_iff.mpr rfl
    unfold exchange at h
    generalize prepare e d ts now context id = result at h hprepares
    cases hprepares with
    | unaddressed haddress => cases hurl.symm.trans haddress
    | cancelled haddress hcancelled =>
      obtain ⟨c, hstop, hpast⟩ := htoken.mp hcancelled
      exact h ▸ .cancelled hstop hpast
    | expired haddress halive htime => exact h ▸ .expired (hlive.mpr halive) htime
    | unheaded haddress halive htime hheader => exact h ▸ .unheaded (hlive.mpr halive) htime hheader
    | unsendable haddress halive htime hheader hsendable =>
      exact h ▸ .unaddressed (hlive.mpr halive) htime hheader haddress hsendable
    | ready haddress halive htime hheader hsendable =>
      obtain rfl := Except.ok.inj (hurl.symm.trans haddress)
      exact .sent (hlive.mpr halive) htime hheader hurl hsendable ((hdecides htime).mpr h)

/-- What an exchange with a peer whose address was accepted comes to, for every id, context and reaction of the peer, when the
cancellation, the deadline and the reply are distinct instants. It ends in exactly one way, and never blames the configuration. -/
theorem exchange_concludes {raw : String} (hbase : parseAddress raw = .ok d.base)
    (htoken : ts.isCancelled context.token = true ↔ ∃ c ∈ stop, c ≤ now) (hdistinct : ∀ c ∈ stop, c ≠ context.deadline)
    (hreply : ∀ url, d.path.resolve d.base id = .ok url → ∀ t (r : Except Fault α),
      Replies network e id ⟨url, context.requestId⟩ now (Span.toMillis (context.deadline - now)) t r →
        t ≠ context.deadline ∧ ∀ c ∈ stop, c ≠ t) :
    (∀ a : Attempt α, Concludes network e d now stop context id a ↔ exchange network e d now stop ts context id = a) ∧
      ∀ text, (exchange network e d now stop ts context id : Attempt α).ending ≠
        .returned (.error (.configuration text)) := by
  obtain ⟨-, list, hpath, -⟩ := parseAddress_ok hbase
  have hurl := d.path.resolve_ok hpath id
  have hiff : ∀ a : Attempt α, Concludes network e d now stop context id a ↔
      exchange network e d now stop ts context id = a := fun a => concludes_iff hurl htoken hdistinct (hreply _ hurl)
  exact ⟨hiff, ((hiff _).mpr rfl).ne_configuration⟩

/-- A caller whose request is sent on and rejected there in time gets the body of the second answer, with a mark for the byte that is no
text. -/
theorem exchange_concludes_rejected :
    let annex : Url := { courseDestination.base with host := some (.domain "annex") }
    let network : Network := fun t _ => if t = 0 then .answered 4 307 (some annex) [] else .answered 6 422 none [0x7b, 0xff]
    let context := Context.opened 1 "students" "get_student_courses" 0 30 none
    parseAddress "courses" = .ok courseDestination.base ∧
      (Tokens.fresh.isCancelled context.token = true ↔ ∃ c ∈ some 20, c ≤ 0) ∧ (∀ c ∈ some 20, c ≠ context.deadline) ∧
      exchange network courseEndpoint courseDestination 0 (some 20) Tokens.fresh context "7" =
        (⟨true, 10, .returned (.error (.validation "courses rejected \"7\": \x7b\uFFFD"))⟩ : Attempt Course) := by
  intro annex network context
  have hbase : parseAddress "courses" = .ok courseDestination.base := rfl
  have htoken : Tokens.fresh.isCancelled context.token = true ↔ ∃ c ∈ some 20, c ≤ 0 := by decide
  have hdistinct : ∀ c ∈ some 20, c ≠ context.deadline := by simp [context, Context.opened]
  have hend (out : Outgoing) : (follow network mostRedirects 0 out).arrival = some (10, .answered 422 [0x7b, 0xff]) := rfl
  have hreply : ∀ url, courseDestination.path.resolve courseDestination.base "7" = .ok url → ∀ t (r : Except Fault Course),
      Replies network courseEndpoint "7" ⟨url, context.requestId⟩ 0 (Span.toMillis (context.deadline - 0)) t r →
        t ≠ context.deadline ∧ ∀ c ∈ some 20, c ≠ t := by
    intro url _ t r hr
    rw [replies_iff, hend, Option.map_some, Option.some.injEq, Prod.mk.injEq] at hr
    obtain ⟨rfl, -⟩ := hr
    simp [context, Context.opened]
  have htext : Reports [0x7b, 0xff] "\x7b\uFFFD" := .plain rfl
  have hmeans : Means courseEndpoint "7" 422 [0x7b, 0xff]
      (.error (.validation "courses rejected \"7\": \x7b\uFFFD") : Except Fault Course) :=
    .invalid (by decide) (by decide) (by decide) htext
  have h := exchange_concludes hbase htoken hdistinct hreply
  refine ⟨hbase, htoken, hdistinct, (h.1 _).mp ?_⟩
  exact .sent (by decide) (by decide) rfl rfl (by decide)
    (.answered (.answered (ends_iff.mpr (hend _)) hmeans) (by decide) (by decide))

/-- A peer that would answer in time is not asked for a caller whose own request has an id with a line break. And an answer that is
neither a success nor the fault of the caller need not be reported: one that sends the client on is followed. -/
theorem exchange_unheaded_or_redirected :
    let course : Course := ⟨2, "Algebra"⟩
    let network : Network := fun _ _ => .answered 10 200 none (Text.utf8Bytes (Wire.write course))
    let moved : Network := fun t out => if t = 0 then .answered 4 302 (some courseDestination.base) [] else network t out
    let context := Context.opened 1 "students" "get_student_courses" 0 30
    parseAddress "courses" = .ok courseDestination.base ∧ Tokens.fresh.isCancelled (context none).token = false ∧
      (context none).isExpired 0 = false ∧
      (∃ url, courseDestination.path.resolve courseDestination.base "2" = .ok url ∧
        Decides courseEndpoint 0 (context none).deadline none
          (Replies network courseEndpoint "2" ⟨url, some "a\nb"⟩ 0 (Span.toMillis ((context none).deadline - 0)))
          ⟨true, 10, .returned (.ok course)⟩) ∧
      exchange network courseEndpoint courseDestination 0 none Tokens.fresh (context (some "a\nb")) "2" =
        (unsent (.remoteUnavailable "courses" "builder error") : Attempt Course) ∧
      exchange network courseEndpoint courseDestination 0 none Tokens.fresh (context (some "a\nb")) "2" ≠
        (⟨true, 10, .returned (.ok course)⟩ : Attempt Course) ∧
      exchange moved courseEndpoint courseDestination 0 none Tokens.fresh (context none) "2" =
        (⟨true, 14, .returned (.ok course)⟩ : Attempt Course) ∧
      exchange moved courseEndpoint courseDestination 0 none Tokens.fresh (context none) "2" ≠
        (⟨true, 4, .returned (.error (.remoteUnavailable "courses" "302 Found: "))⟩ : Attempt Course) := by
  intro course network moved context
  have hrecord : Means courseEndpoint "2" 200 (Text.utf8Bytes (Wire.write course)) (.ok course) :=
    .record (by decide) (Wire.decodeGlyphs_places_utf8Bytes course)
  have hend (out : Outgoing) : (follow network mostRedirects 0 out).arrival =
      some (10, .answered 200 (Text.utf8Bytes (Wire.write course))) := rfl
  have hmoved (out : Outgoing) : (follow moved mostRedirects 0 out).arrival =
      some (14, .answered 200 (Text.utf8Bytes (Wire.write course))) := rfl
  have hunsent : exchange network courseEndpoint courseDestination 0 none Tokens.fresh (context (some "a\nb")) "2" =
      (unsent (.remoteUnavailable "courses" "builder error") : Attempt Course) := rfl
  have hfollowed : exchange moved courseEndpoint courseDestination 0 none Tokens.fresh (context none) "2" =
      (⟨true, 14, .returned (.ok course)⟩ : Attempt Course) := by
    rw [exchange, prepares_iff.mp (.ready rfl rfl (by decide) rfl (by decide))]
    simp only [hmoved, Option.map_some, outcome,
      interpret_success courseEndpoint "2" (Wire.decodeGlyphs_places_utf8Bytes course)]
    rfl
  refine ⟨rfl, rfl, rfl, ⟨_, rfl, ?_⟩, hunsent, ?_, hfollowed, ?_⟩
  · exact .answered (.answered (ends_iff.mpr (hend _)) hrecord) (by decide) (by simp)
  · rw [hunsent]
    simp [unsent]
  · rw [hfollowed]
    simp

end Exchange

end Campus.Peer
