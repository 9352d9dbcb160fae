import BoardSupport.Proofs.ChipSupport.FailFast
import BoardSupport.Proofs.ChipSupport.Twins

/-!
# Sequences of requests

What a device makes of requests that come one after another, and operations that are no more than
such a sequence.

- `Device.exchange`, `Device.afterAll`: the events of a sequence and the state it leaves, whatever the
  replies.
- `Device.Serves` and `Device.chain`: no request of a sequence fails; the sequence up to the first
  failure.  The chain of a sequence that is served is the whole exchange.
- `doing`: what a computation does on a device, its reports to the console left out.
- `Performs`: an action makes a sequence of requests until one fails.  There is one rule for each way
  of building actions.
-/

namespace BoardSupport.ChipSupport

variable {L : Library} {C : Interface} {σ τ ε ε' α β : Type}

/-- The event is a call of the library, not of the console. -/
def ofLibrary (e : Event L.interface) : Bool := !e.call.isDebug

/-- The calls of the library. -/
def libraryCalls (es : List (Event L.interface)) : List (Event L.interface) :=
  es.filter ofLibrary

theorem libraryCalls_append (es₁ es₂ : List (Event L.interface)) :
    libraryCalls (es₁ ++ es₂) = libraryCalls es₁ ++ libraryCalls es₂ :=
  List.filter_append ..

/-- The requests among some calls. -/
def requests (es : List (Event L.interface)) : List L.Request :=
  es.filterMap fun e => match e.call with
    | .request r => some r
    | _ => none

theorem requests_libraryCalls (es : List (Event L.interface)) :
    requests (libraryCalls es) = requests es := by
  rw [requests, libraryCalls, List.filterMap_filter]
  congr 1
  funext e
  obtain ⟨r | a | _ | call, reply⟩ := e <;> rfl

/-- The event is not a failure. -/
def succeeded : Event L.interface → Bool
  | ⟨.request _, .error _⟩ => false
  | _ => true

/-! ## Requests one after another -/

namespace Device

/-- The event of a request. -/
def reply (d : Device L τ) (t : τ) (r : L.Request) : Event L.interface := ⟨.request r, (d.request r t).1⟩

/-- The events of some requests. -/
def exchange (d : Device L τ) : τ → List L.Request → List (Event L.interface)
  | _, [] => []
  | t, r :: rs => d.reply t r :: d.exchange (d.request r t).2 rs

/-- The state after some requests. -/
def afterAll (d : Device L τ) : τ → List L.Request → τ
  | t, [] => t
  | t, r :: rs => d.afterAll (d.request r t).2 rs

/-- No request fails. -/
def Serves (d : Device L τ) (t : τ) (rs : List L.Request) : Prop :=
  ∀ e ∈ d.exchange t rs, succeeded e = true

/-- The events of some requests, up to the first failure. -/
def chain (d : Device L τ) : τ → List L.Request → List (Event L.interface)
  | _, [] => []
  | t, r :: rs =>
    d.reply t r :: if succeeded (d.reply t r) then d.chain (d.request r t).2 rs else []

variable {d : Device L τ} {t : τ} {r : L.Request} {rs : List L.Request}

theorem exchange_append (t : τ) (first later : List L.Request) :
    d.exchange t (first ++ later) =
      d.exchange t first ++ d.exchange (d.afterAll t first) later := by
  induction first generalizing t with
  | nil => rfl
  | cons r rs ih => exact congrArg _ (ih _)

theorem requests_exchange (t : τ) (rs : List L.Request) : requests (d.exchange t rs) = rs := by
  induction rs generalizing t with
  | nil => rfl
  | cons r rs ih => exact congrArg _ (ih _)

theorem map_call_exchange (t : τ) (rs : List L.Request) :
    (d.exchange t rs).map Event.call = rs.map .request := by
  induction rs generalizing t with
  | nil => rfl
  | cons r rs ih => exact congrArg _ (ih _)

theorem afterAll_append (t : τ) (first later : List L.Request) :
    d.afterAll t (first ++ later) = d.afterAll (d.afterAll t first) later := by
  induction first generalizing t with
  | nil => rfl
  | cons r rs ih => exact ih _

theorem serves_nil : d.Serves t [] :=
  List.forall_mem_nil _

theorem serves_cons : d.Serves t (r :: rs) ↔
    succeeded (d.reply t r) = true ∧ d.Serves (d.request r t).2 rs :=
  List.forall_mem_cons

theorem serves_append {first later : List L.Request} : d.Serves t (first ++ later) ↔
    d.Serves t first ∧ d.Serves (d.afterAll t first) later := by
  rw [Serves, exchange_append]
  exact List.forall_mem_append

theorem serves_singleton : d.Serves t [r] ↔ ∃ v, (d.request r t).1 = .ok v := by
  rw [serves_cons, reply]
  cases h : (d.request r t).1 with
  | ok v => exact iff_of_true ⟨rfl, serves_nil⟩ ⟨v, rfl⟩
  | error e => exact iff_of_false (fun h => Bool.false_ne_true h.1) nofun

/-- A sequence that is served is made to its end. -/
theorem chain_of_serves (h : d.Serves t rs) : d.chain t rs = d.exchange t rs := by
  induction rs generalizing t with
  | nil => rfl
  | cons r rs ih =>
    obtain ⟨hr, hrs⟩ := serves_cons.1 h
    rw [chain, if_pos hr, ih hrs]
    rfl

/-- A sequence that is not served ends in a failure. -/
theorem exists_failure (h : ¬ d.Serves t rs) : ∃ e ∈ d.chain t rs, succeeded e = false := by
  induction rs generalizing t with
  | nil => exact absurd serves_nil h
  | cons r rs ih =>
    rw [chain]
    by_cases hr : succeeded (d.reply t r) = true
    · rw [if_pos hr]
      obtain ⟨e, he, hfailed⟩ := ih fun hrs => h (serves_cons.2 ⟨hr, hrs⟩)
      exact ⟨e, List.mem_cons_of_mem _ he, hfailed⟩
    · exact ⟨_, List.mem_cons_self, Bool.eq_false_iff.2 hr⟩

/-- What comes after a sequence that is served is made as well. -/
theorem chain_append_of_serves {first : List L.Request} (later : List L.Request)
    (h : d.Serves t first) :
    d.chain t (first ++ later) = d.exchange t first ++ d.chain (d.afterAll t first) later := by
  induction first generalizing t with
  | nil => rfl
  | cons r rs ih =>
    obtain ⟨hr, hrs⟩ := serves_cons.1 h
    rw [List.cons_append, chain, if_pos hr, ih hrs]
    rfl

/-- What comes after a failure is not made. -/
theorem chain_append_of_not_serves {first : List L.Request} (later : List L.Request)
    (h : ¬ d.Serves t first) : d.chain t (first ++ later) = d.chain t first := by
  induction first generalizing t with
  | nil => exact absurd serves_nil h
  | cons r rs ih =>
    rw [List.cons_append, chain, chain]
    by_cases hr : succeeded (d.reply t r) = true
    · rw [if_pos hr, if_pos hr, ih fun hrs => h (serves_cons.2 ⟨hr, hrs⟩)]
    · rw [if_neg hr, if_neg hr]

end Device

/-! ## What a computation does on a device -/

/-- The course of a computation on a device, its reports left out. -/
def doing (d : Device L τ) (x : StateT σ L.Task α) (s : σ) (t : τ) :
    Course L.interface (α × σ) τ :=
  { (x.run s).course d.alone t with calls := libraryCalls ((x.run s).course d.alone t).calls }

section Doing

variable {d : Device L τ} {s u : σ} {t v : τ}

theorem doing_bind {x : StateT σ L.Task α} {f : α → StateT σ L.Task β}
    {es : List (Event L.interface)} {a : α} (h : doing d x s t = ⟨es, (a, u), v⟩) :
    doing d (x >>= f) s t = (doing d (f a) u v).behind es := by
  obtain ⟨hes, hresult, hstate⟩ := Course.mk.inj h
  rw [doing, StateT.run_bind, Program.course_bind, hresult, hstate]
  show Course.mk (libraryCalls (_ ++ _)) _ _ = _
  rw [libraryCalls_append, hes]
  rfl

/-- What is left to be done of a computation is what its continuation waits for. -/
theorem doing_bind_behind {x y : StateT σ L.Task α} {f : α → StateT σ L.Task β}
    {es : List (Event L.interface)} (h : doing d x s t = (doing d y u v).behind es) :
    doing d (x >>= f) s t = (doing d (y >>= f) u v).behind es := by
  have hy : doing d y u v = ⟨(doing d y u v).calls, (doing d y u v).result, (doing d y u v).state⟩ :=
    rfl
  rw [doing_bind hy, Course.behind_behind]
  exact doing_bind h

theorem doing_bind_ok {x : Action L σ ε α} {f : α → Action L σ ε β} {es : List (Event L.interface)}
    {a : α} (h : doing d x.run s t = ⟨es, (.ok a, u), v⟩) :
    doing d (x >>= f).run s t = (doing d (f a).run u v).behind es := by
  rw [Action.run_bind, doing_bind h]

/-- Nothing follows a failure. -/
theorem doing_bind_error {x : Action L σ ε α} {f : α → Action L σ ε β}
    {es : List (Event L.interface)} {e : ε} (h : doing d x.run s t = ⟨es, (.error e, u), v⟩) :
    doing d (x >>= f).run s t = ⟨es, (.error e, u), v⟩ := by
  rw [Action.run_bind, doing_bind h]
  exact Course.behind_end es _ _

theorem mem_doing_bind {x : StateT σ L.Task α} {f : α → StateT σ L.Task β} {e : Event L.interface}
    (h : e ∈ (doing d x s t).calls) : e ∈ (doing d (x >>= f) s t).calls := by
  have hx : doing d x s t =
      ⟨(doing d x s t).calls, (doing d x s t).result, (doing d x s t).state⟩ := rfl
  rw [doing_bind hx]
  exact List.mem_append_left _ h

theorem doing_request (r : L.Request) :
    doing d (request r : Action L σ Error (L.Value r)).run s t =
      ⟨[d.reply t r], ((d.request r t).1, s), (d.request r t).2⟩ := rfl

theorem doing_report [Build] (line : String) (e : ε) :
    doing d (report line e : Action L σ ε α).run s t = ⟨[], (.error e, s), t⟩ := by
  unfold report debugMessage
  cases Build.debugMessages <;> rfl

theorem doing_attempt [Build] (line : String) (r : L.Request) :
    doing d (attempt line r : Action L σ Error (L.Value r)).run s t =
      ⟨[d.reply t r], ((d.request r t).1, s), (d.request r t).2⟩ := by
  rw [attempt, logFailure, Action.run_tryCatch, doing_bind (doing_request r)]
  cases (d.request r t).1 with
  | ok v => rfl
  | error e =>
    show (doing d (report line e : Action L σ Error (L.Value r)).run s _).behind _ = _
    rw [doing_report]
    rfl

theorem doing_adapt {x : Action L σ ε α} {f : ε → ε'} {es : List (Event L.interface)}
    {r : Except ε α} (h : doing d x.run s t = ⟨es, (r, u), v⟩) :
    doing d (x.adapt f).run s t = ⟨es, (r.mapError f, u), v⟩ := by
  rw [Action.run_adapt, doing_bind h]
  cases r with
  | ok a => exact Course.behind_end es _ _
  | error e => exact Course.behind_end es _ _

/-- A session performs what the command's operation does, with some reports, if the driver does not
heed what is said to these. -/
theorem Session.perform_doing (d : Device L τ) (driver : Handler C (StateT σ L.Task)) (c : C.Call)
    (s : Session σ τ) {build build' : Build} (hdriver : Twins build build' (driver c) (driver c)) :
    ∃ calls k,
      s.perform d driver c =
        (((doing d (driver c) s.driver s.device).result.1, calls.toArray),
          ⟨(doing d (driver c) s.driver s.device).result.2,
            (doing d (driver c) s.driver s.device).state, k⟩) ∧
        libraryCalls calls = (doing d (driver c) s.driver s.device).calls := by
  obtain ⟨hcalls, hresult, hstate, -⟩ :=
    (hdriver s.driver).course d.beside_handler d.beside_alone (w := (s.device, s.console)) rfl
  refine ⟨(s.course d driver c).calls, (s.course d driver c).state.2, ?_, hcalls⟩
  rw [perform_eq, course, hresult, hstate]
  rfl

/-- A turn of a session is what the command's operation does, with some reports, if the driver does not
heed what is said to these. -/
theorem Session.turn_doing (d : Device L τ) (driver : Handler C (StateT σ L.Task)) (c : C.Call)
    (s : Session σ τ) {build build' : Build} (hdriver : Twins build build' (driver c) (driver c)) :
    ∃ calls k,
      (performer d driver).turn c s =
        ⟨c, s, (doing d (driver c) s.driver s.device).result.1, calls,
          ⟨(doing d (driver c) s.driver s.device).result.2,
            (doing d (driver c) s.driver s.device).state, k⟩⟩ ∧
        libraryCalls calls = (doing d (driver c) s.driver s.device).calls := by
  obtain ⟨calls, k, hperform, hcalls⟩ := Session.perform_doing d driver c s hdriver
  refine ⟨calls, k, ?_, hcalls⟩
  rw [Performer.turn, performer, hperform]

end Doing

/-! ## Actions that make a sequence of requests -/

/-- From state `s` the action makes some requests until one fails: it succeeds, with a result and a
state that satisfy `post`, if the sequence is served, and fails otherwise. -/
def Performs (d : Device L τ) (x : Action L σ ε α) (s : σ) (rs : List L.Request)
    (post : α → σ → Prop) : Prop :=
  ∀ t, (d.Serves t rs ∧ ∃ a u, post a u ∧
      doing d x.run s t = ⟨d.exchange t rs, (.ok a, u), d.afterAll t rs⟩) ∨
    (¬ d.Serves t rs ∧ ∃ e u v, doing d x.run s t = ⟨d.chain t rs, (.error e, u), v⟩)

namespace Performs

variable {d : Device L τ} {s : σ} {t : τ} {rs rs₁ rs₂ : List L.Request} {x : Action L σ ε α}
  {f : α → Action L σ ε β} {mid : α → σ → Prop} {post : β → σ → Prop}

/-- Whether or not it is served, the calls are the chain of the sequence. -/
theorem calls_eq {post : α → σ → Prop} (h : Performs d x s rs post) (t : τ) :
    (doing d x.run s t).calls = d.chain t rs := by
  rcases h t with ⟨hserves, a, u, -, hdoing⟩ | ⟨-, e, u, v, hdoing⟩
  · rw [hdoing, Device.chain_of_serves hserves]
  · rw [hdoing]

theorem of_serves {post : α → σ → Prop} (h : Performs d x s rs post) (hserves : d.Serves t rs) :
    ∃ a u, post a u ∧ doing d x.run s t = ⟨d.exchange t rs, (.ok a, u), d.afterAll t rs⟩ := by
  rcases h t with ⟨-, hdoing⟩ | ⟨hnot, -⟩
  · exact hdoing
  · exact absurd hserves hnot

/-- If no call fails, the sequence is served. -/
theorem serves {post : α → σ → Prop} (h : Performs d x s rs post)
    (hsmooth : ∀ e ∈ (doing d x.run s t).calls, succeeded e = true) : d.Serves t rs := by
  by_cases hserves : d.Serves t rs
  · exact hserves
  · obtain ⟨e, hmem, hfailed⟩ := Device.exists_failure hserves
    rw [← h.calls_eq t] at hmem
    exact absurd (hfailed.symm.trans (hsmooth e hmem)) Bool.false_ne_true

theorem imp {post post' : α → σ → Prop} (h : Performs d x s rs post)
    (hpost : ∀ a u, post a u → post' a u) : Performs d x s rs post' := by
  intro t
  rcases h t with ⟨hserves, a, u, ha, hdoing⟩ | hfailed
  · exact .inl ⟨hserves, a, u, hpost a u ha, hdoing⟩
  · exact .inr hfailed

theorem pure {a : α} {post : α → σ → Prop} (h : post a s) :
    Performs d (pure a : Action L σ ε α) s [] post :=
  fun _ => .inl ⟨Device.serves_nil, a, s, h, rfl⟩

theorem attempt [Build] {line : String} {r : L.Request} {post : L.Value r → σ → Prop}
    (h : ∀ v, post v s) : Performs d (attempt line r) s [r] post := by
  intro t
  rw [doing_attempt, Device.serves_singleton]
  cases hreply : (d.request r t).1 with
  | ok v => exact .inl ⟨⟨v, rfl⟩, v, s, h v, rfl⟩
  | error e =>
    refine .inr ⟨nofun, e, s, (d.request r t).2, ?_⟩
    rw [Device.chain, Device.reply, hreply]
    rfl

theorem bind (hx : Performs d x s rs₁ mid)
    (hf : ∀ a u, mid a u → Performs d (f a) u rs₂ post) :
    Performs d (x >>= f) s (rs₁ ++ rs₂) post := by
  intro t
  rw [Device.serves_append]
  rcases hx t with ⟨hserves, a, u, hmid, hdoing⟩ | ⟨hnot, e, u, v, hdoing⟩
  · -- the first part is made to its end, and the second decides
    rw [doing_bind_ok hdoing]
    rcases hf a u hmid (d.afterAll t rs₁) with ⟨hserves₂, b, w, hpost, hdoing₂⟩ |
      ⟨hnot₂, e, w, v, hdoing₂⟩
    · refine .inl ⟨⟨hserves, hserves₂⟩, b, w, hpost, ?_⟩
      rw [Device.exchange_append, Device.afterAll_append]
      exact congrArg _ hdoing₂
    · refine .inr ⟨fun h => hnot₂ h.2, e, w, v, ?_⟩
      rw [Device.chain_append_of_serves _ hserves]
      exact congrArg _ hdoing₂
  · -- nothing follows a failure
    refine .inr ⟨fun h => hnot h.1, e, u, v, ?_⟩
    rw [doing_bind_error hdoing, Device.chain_append_of_not_serves _ hnot]

theorem attempt_bind [Build] {line : String} {r : L.Request} {f : L.Value r → Action L σ Error β}
    (h : ∀ v, Performs d (f v) s rs post) :
    Performs d (ChipSupport.attempt line r >>= f) s (r :: rs) post := by
  have hfirst : Performs d (ChipSupport.attempt line r) s [r] fun _ u => u = s :=
    attempt fun _ => rfl
  refine hfirst.bind fun v u hu => ?_
  rw [hu]
  exact h v

theorem modify_bind {g : σ → σ} {f : PUnit → Action L σ ε β}
    (h : Performs d (f ()) (g s) rs post) : Performs d (modify g >>= f) s rs post :=
  h

theorem get_bind {f : σ → Action L σ ε β} (h : Performs d (f s) s rs post) :
    Performs d (get >>= f) s rs post :=
  h

theorem adapt {g : ε → ε'} {post : α → σ → Prop} (hx : Performs d x s rs post) :
    Performs d (x.adapt g) s rs post := by
  intro t
  rw [Action.run_adapt]
  rcases hx t with ⟨hserves, a, u, hpost, hdoing⟩ | ⟨hnot, e, u, v, hdoing⟩
  · refine .inl ⟨hserves, a, u, hpost, ?_⟩
    rw [doing_bind hdoing]
    exact Course.behind_end _ _ _
  · refine .inr ⟨hnot, g e, u, v, ?_⟩
    rw [doing_bind hdoing]
    exact Course.behind_end _ _ _

end Performs

end BoardSupport.ChipSupport
