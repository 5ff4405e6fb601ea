import Campus.Peer.Exchange

/-! # Peers that answer

A transport answers when it gives a record for each id that is asked for, as long as the caller has the time and is not
cancelled. What an exchange comes to depends on what is found while its request is made out, and then on a race: an answer that
comes in time decides it.
-/
namespace Campus

theorem Context.isExpired_iff {context : Context} {now : Instant} :
    context.isExpired now = true ↔ context.deadline ≤ now := by
  simp [isExpired, remaining, Nat.sub_eq_zero_iff_le]

theorem Context.isExpired_eq_false {context : Context} {now : Instant} (h : now < context.deadline) :
    context.isExpired now = false := by
  rw [Bool.eq_false_iff, ne_eq, isExpired_iff]
  exact Nat.not_le.mpr h

namespace Peer

variable {α : Type}

/-- A transport gives records for some ids, each after some time, to callers that have that time and are not cancelled. -/
def Answers (transport : Transport α) (requestId : Option String) (ids : List String) (delay : Instant → String → Span)
    (record : Instant → String → α) : Prop :=
  ∀ t (ts : Tokens) (context : Context) id, id ∈ ids → context.requestId = requestId →
    ts.isCancelled context.token = false → t + delay t id < context.deadline →
    transport t none ts context id = ⟨true, delay t id, .returned (.ok (record t id))⟩

theorem sent_race (e : Endpoint) (now deadline : Instant) (stop : Option Instant) (result : Option (Instant × Except Fault α)) :
    (race e now deadline stop result).sent = true := by
  unfold race
  dsimp only
  repeat' split
  all_goals rfl

/-- A request that is answered in time is cancelled by its caller, if that comes before the answer. -/
theorem race_replied {e : Endpoint} {now t deadline : Instant} {stop : Option Instant} (hnow : now ≤ t) (htime : t < deadline)
    (r : Except Fault α) : race e now deadline stop (some (t, r)) = match stop with
      | some c => if c ≤ t then ⟨true, c - now, .returned (.error .cancelled)⟩ else ⟨true, t - now, .returned r⟩
      | none => ⟨true, t - now, .returned r⟩ := by
  have hdelay : now + (t - now) = t := Nat.add_sub_cancel' hnow
  cases stop <;> simp [race, htime, hdelay]

/-- What comes of preparing a request: the first thing that speaks against it, or the request. -/
inductive Prepares (e : Endpoint) (d : Destination) (ts : Tokens) (now : Instant) (context : Context) (id : String) :
    Except Fault Outgoing → Prop where
  | unaddressed {f : Fault} (haddress : d.path.resolve d.base id = .error f) : Prepares e d ts now context id (.error f)
  | cancelled {url : Url} (haddress : d.path.resolve d.base id = .ok url) (htoken : ts.isCancelled context.token = true) :
    Prepares e d ts now context id (.error .cancelled)
  | expired {url : Url} (haddress : d.path.resolve d.base id = .ok url) (htoken : ts.isCancelled context.token = false)
      (htime : context.deadline ≤ now) : Prepares e d ts now context id (.error (.remoteTimeout e.dependency 0))
  | unheaded {url : Url} (haddress : d.path.resolve d.base id = .ok url) (htoken : ts.isCancelled context.token = false)
      (htime : now < context.deadline) (hheader : context.requestId.all Http.isHeaderValue = false) :
    Prepares e d ts now context id (.error (.remoteUnavailable e.dependency "builder error"))
  | unsendable {url : Url} (haddress : d.path.resolve d.base id = .ok url) (htoken : ts.isCancelled context.token = false)
      (htime : now < context.deadline) (hheader : context.requestId.all Http.isHeaderValue = true)
      (hsendable : isSendable url.withoutCredentials = false) :
    Prepares e d ts now context id
      (.error (.remoteUnavailable e.dependency s!"builder error for url ({url.withoutCredentials.text})"))
  | ready {url : Url} (haddress : d.path.resolve d.base id = .ok url) (htoken : ts.isCancelled context.token = false)
      (htime : now < context.deadline) (hheader : context.requestId.all Http.isHeaderValue = true)
      (hsendable : isSendable url.withoutCredentials = true) :
    Prepares e d ts now context id (.ok ⟨url, context.requestId⟩)

theorem prepares_iff {e : Endpoint} {d : Destination} {ts : Tokens} {now : Instant} {context : Context} {id : String}
    {result : Except Fault Outgoing} : Prepares e d ts now context id result ↔ prepare e d ts now context id = result := by
  constructor
  · intro h
    cases h with
    | unaddressed haddress => simp only [prepare, haddress]
    | cancelled haddress htoken => simp only [prepare, haddress, htoken, if_true]
    | expired haddress htoken htime => simp [prepare, haddress, htoken, Context.isExpired_iff.mpr htime]
    | unheaded haddress htoken htime hheader =>
      simp [prepare, haddress, htoken, Context.isExpired_eq_false htime, hheader]
    | unsendable haddress htoken htime hheader hsendable =>
      simp [prepare, haddress, htoken, Context.isExpired_eq_false htime, hheader, hsendable]
    | ready haddress htoken htime hheader hsendable =>
      simp [prepare, haddress, htoken, Context.isExpired_eq_false htime, hheader, hsendable]
  · rintro rfl
    unfold prepare
    cases haddress : d.path.resolve d.base id with
    | error f => exact .unaddressed haddress
    | ok url =>
      dsimp only
      by_cases htoken : ts.isCancelled context.token = true
      · rw [if_pos htoken]
        exact .cancelled haddress htoken
      rw [if_neg htoken]
      rw [Bool.not_eq_true] at htoken
      by_cases hexpired : context.isExpired now = true
      · rw [if_pos hexpired]
        exact .expired haddress htoken (Context.isExpired_iff.mp hexpired)
      rw [if_neg hexpired]
      have htime := Nat.lt_of_not_le fun hle => hexpired (Context.isExpired_iff.mpr hle)
      cases hheader : context.requestId.all Http.isHeaderValue with
      | false => exact .unheaded haddress htoken htime hheader
      | true =>
        cases hsendable : isSendable url.withoutCredentials with
        | false => exact .unsendable haddress htoken htime hheader hsendable
        | true => exact .ready haddress htoken htime hheader hsendable

theorem interpret_success [Wire α] (e : Endpoint) (id : String) {body : List UInt8} {a : α}
    (h : Wire.decodeGlyphs (Text.Utf8.places body) = .ok a) : interpret e id 200 body = .ok a := by
  simp [interpret, Http.isSuccess, h]

end Peer

end Campus
