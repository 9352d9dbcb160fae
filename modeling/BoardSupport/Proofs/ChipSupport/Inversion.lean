import BoardSupport.Proofs.ChipSupport.Exchange
import BoardSupport.Proofs.ChipSupport.Frame

/-!
# Operations taken apart call by call

Modules are brought up and shut down by calls in a row, of which each is made only if those before it
have succeeded.  `Asks` says that an action is one such call, whatever it reports and however its
error is read; `Asks.runs_bind` takes a run that begins with it apart into the call and the rest.  All
this is about the calls of the library (`libraryCalls`), since nobody asks what was reported.
-/

namespace BoardSupport.ChipSupport

variable {L : Library} {σ γ ε ε' α β : Type}

theorem mem_libraryCalls {e : Event L.interface} {es : List (Event L.interface)} :
    e ∈ libraryCalls es ↔ e ∈ es ∧ ofLibrary e = true :=
  List.mem_filter

/-- What is told from calls of the library only can be told from the library's calls. -/
theorem filterMap_of_libraryCalls {f : Event L.interface → Option γ}
    (hf : ∀ call reply, f ⟨.debug call, reply⟩ = none) {es calls : List (Event L.interface)}
    (h : libraryCalls es = calls) : es.filterMap f = calls.filterMap f := by
  rw [← h, libraryCalls, List.filterMap_filter]
  congr 1
  funext e
  obtain ⟨r | a | _ | call, reply⟩ := e
  · rfl
  · rfl
  · rfl
  · exact hf call reply

theorem any_of_libraryCalls {p : Event L.interface → Bool}
    (hp : ∀ call reply, p ⟨.debug call, reply⟩ = false) {es calls : List (Event L.interface)}
    (h : libraryCalls es = calls) : es.any p = calls.any p := by
  rw [← h, libraryCalls, List.any_filter]
  congr 1
  funext e
  obtain ⟨r | a | _ | call, reply⟩ := e
  · exact (Bool.true_and _).symm
  · exact (Bool.true_and _).symm
  · exact (Bool.true_and _).symm
  · exact hp call reply

/-- The action asks the library for `r` and for nothing else, and hands a failure back as `f` reads
it. -/
def Asks (f : Error → ε) (r : L.Request) (x : Action L σ ε (L.Value r)) : Prop :=
  ∀ s es result t, x.Runs s es result t → ∃ reply : Except Error (L.Value r),
    libraryCalls es = [⟨.request r, reply⟩] ∧ result = reply.mapError f ∧ t = s

theorem asks_request (r : L.Request) : Asks id r (request r : Action L σ Error (L.Value r)) := by
  intro s es result t h
  obtain ⟨rfl, rfl⟩ := Action.runs_request_iff.1 h
  refine ⟨result, rfl, ?_, rfl⟩
  cases result <;> rfl

theorem libraryCalls_messageCalls [Build] (line : String) (said : Except WriteError Unit) :
    libraryCalls (Action.messageCalls (L := L) line said) = [] := by
  unfold Action.messageCalls
  cases Build.debugMessages <;> rfl

theorem libraryCalls_attemptCalls [Build] (line : String) (r : L.Request)
    (said : Except WriteError Unit) (result : Except Error (L.Value r)) :
    libraryCalls (Action.attemptCalls line r said result) = [⟨.request r, result⟩] := by
  cases result with
  | ok v => rfl
  | error e => exact congrArg (_ :: ·) (libraryCalls_messageCalls line said)

theorem asks_attempt [Build] (line : String) (r : L.Request) :
    Asks id r (attempt line r : Action L σ Error (L.Value r)) := by
  intro s es result t h
  obtain ⟨⟨said, rfl⟩, rfl⟩ := Action.runs_attempt_iff.1 h
  refine ⟨result, libraryCalls_attemptCalls line r said result, ?_, rfl⟩
  cases result <;> rfl

namespace Asks

theorem adapt {r : L.Request} {x : Action L σ Error (L.Value r)} (hx : Asks id r x)
    (g : Error → ε) : Asks g r (x.adapt g) := by
  intro s es result t h
  obtain ⟨result', hrun, rfl⟩ := Action.runs_adapt_iff.1 h
  obtain ⟨reply, hes, rfl, ht⟩ := hx s es result' t hrun
  refine ⟨reply, hes, ?_, ht⟩
  cases reply <;> rfl

variable {f : Error → ε} {r : L.Request} {x : Action L σ ε (L.Value r)} {s t : σ}
  {es : List (Event L.interface)}

/-- The call fails and nothing follows, or it succeeds and the rest follows. -/
theorem runs_bind (hx : Asks f r x) {next : L.Value r → Action L σ ε β} {result : Except ε β}
    (h : (x >>= next).Runs s es result t) :
    (∃ e, libraryCalls es = [⟨.request r, .error e⟩] ∧ result = .error (f e) ∧ t = s) ∨
      ∃ v later, libraryCalls es = ⟨.request r, .ok v⟩ :: libraryCalls later ∧
        (next v).Runs s later result t := by
  obtain ⟨es₁, v, u, es₂, rfl, hcall, hlater⟩ | ⟨e, rfl, hcall⟩ := Action.runs_bind_iff.1 h
  · obtain ⟨reply, hes₁, hreply, rfl⟩ := hx _ _ _ _ hcall
    cases reply with
    | ok v' =>
      cases hreply
      exact .inr ⟨v, es₂, by rw [libraryCalls_append, hes₁]; rfl, hlater⟩
    | error e => cases hreply
  · obtain ⟨reply, hes, hreply, rfl⟩ := hx _ _ _ _ hcall
    cases reply with
    | ok v => cases hreply
    | error e' =>
      cases hreply
      exact .inl ⟨e', hes, rfl, rfl⟩

/-- A call that is allowed leaves alone what is in the driver's state. -/
theorem leaves {Allowed : L.Call → Prop} {part : σ → γ} (hx : Asks f r x)
    (hr : Allowed (.request r)) (hdebug : ∀ call, Allowed (.debug call)) :
    Leaves Allowed part x.run := by
  intro s es result t h
  obtain ⟨reply, hes, -, rfl⟩ := hx s es result t h
  refine ⟨fun e he => ?_, rfl⟩
  by_cases hlibrary : ofLibrary e = true
  · have hmem : e ∈ libraryCalls es := mem_libraryCalls.2 ⟨he, hlibrary⟩
    rw [hes] at hmem
    rw [List.mem_singleton.1 hmem]
    exact hr
  · obtain ⟨q | a | _ | call, answer⟩ := e
    · exact absurd rfl hlibrary
    · exact absurd rfl hlibrary
    · exact absurd rfl hlibrary
    · exact hdebug call

end Asks

/-- A composition that succeeds is made up of parts that do. -/
theorem Action.runs_bind_ok {x : Action L σ ε α} {f : α → Action L σ ε β} {s t : σ} {b : β}
    {es : List (Event L.interface)} (h : (x >>= f).Runs s es (.ok b) t) :
    ∃ es₁ a u es₂, es = es₁ ++ es₂ ∧ x.Runs s es₁ (.ok a) u ∧ (f a).Runs u es₂ (.ok b) t := by
  obtain hparts | ⟨e, herror, -⟩ := Action.runs_bind_iff.1 h
  · exact hparts
  · cases herror

/-- What begins with a call ends with it if it fails, and goes on with its value if it succeeds. -/
theorem Action.runs_request_bind_iff {r : L.Request} {f : L.Value r → Action L σ Error β} {s t : σ}
    {es : List (Event L.interface)} {result : Except Error β} :
    (request r >>= f).Runs s es result t ↔
      (∃ e, es = [⟨.request r, .error e⟩] ∧ result = .error e ∧ t = s) ∨
        ∃ v later, es = ⟨.request r, .ok v⟩ :: later ∧ (f v).Runs s later result t := by
  rw [Action.runs_bind_iff]
  constructor
  · rintro (⟨es₁, v, u, later, rfl, hcall, hlater⟩ | ⟨e, rfl, hcall⟩)
    · obtain ⟨rfl, rfl⟩ := Action.runs_request_iff.1 hcall
      exact .inr ⟨v, later, rfl, hlater⟩
    · obtain ⟨rfl, rfl⟩ := Action.runs_request_iff.1 hcall
      exact .inl ⟨e, rfl, rfl, rfl⟩
  · rintro (⟨e, rfl, rfl, rfl⟩ | ⟨v, later, rfl, hlater⟩)
    · exact .inr ⟨e, rfl, Action.runs_request_iff.2 ⟨rfl, rfl⟩⟩
    · exact .inl ⟨[_], v, s, later, rfl, Action.runs_request_iff.2 ⟨rfl, rfl⟩, hlater⟩

/-- If it ends well, the call that it begins with has succeeded. -/
theorem Action.runs_request_bind_ok {r : L.Request} {f : L.Value r → Action L σ Error β} {s t : σ}
    {b : β} {es : List (Event L.interface)} (h : (request r >>= f).Runs s es (.ok b) t) :
    ∃ v later, es = ⟨.request r, .ok v⟩ :: later ∧ (f v).Runs s later (.ok b) t := by
  obtain ⟨e, -, herror, -⟩ | hparts := Action.runs_request_bind_iff.1 h
  · cases herror
  · exact hparts

/-- What is noted after an action is noted however the action ends. -/
theorem Action.runs_thenAlways_modify_iff {x : Action L σ ε α} {g : σ → σ} {s t : σ}
    {es : List (Event L.interface)} {result : Except ε α} :
    (thenAlways x (modify g)).Runs s es result t ↔ ∃ u, x.Runs s es result u ∧ t = g u := by
  have hrun : (thenAlways x (modify g)).program s =
      x.program s >>= fun r => .done (r.1, g r.2) := rfl
  rw [Runs, hrun, Program.runs_bind_iff]
  constructor
  · rintro ⟨es₁, ⟨result', u⟩, es₂, rfl, hx, hend⟩
    obtain ⟨rfl, rfl, rfl⟩ := runs_end_iff.1 hend
    rw [List.append_nil]
    exact ⟨u, hx, rfl⟩
  · rintro ⟨u, hx, rfl⟩
    exact ⟨es, (result, u), [], (List.append_nil es).symm, hx, .done _⟩

end BoardSupport.ChipSupport
