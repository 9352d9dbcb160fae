import BoardSupport.Proofs.DebugOutput.Operations
import BoardSupport.Proofs.SerialBus.Configuration
import BoardSupport.Proofs.SerialBus.Transfers
import BoardSupport.Proofs.StandIn.SerialBus

/-!
# The bit order of the serial bus

The bit order concerns the bytes that are exchanged one by one, and nothing else: to exchange a byte
with the least significant bit first is to exchange its reversal with the most significant bit first.

- `ignores_perform`: all commands but the exchange of a byte and the choice of the order do the same in
  either order, and keep it.
- `relabelled` and `relabelTurn`: commands and turns with the most significant bit first throughout, in
  place of the order that was selected.  `play_relabelled` says that the one leads to the other.
- `OrderPolicy`: an exchange of a byte sends one word, and answers the low byte of the word received.
- `echoes_play`: a stand-in without faults hands every byte back.
-/

namespace BoardSupport.SerialBus

open ChipSupport (Device Ignores Session Stateless doing libraryCalls)

variable {τ ω : Type}

/-! ## Selecting an order -/

/-- The driver with another bit order. -/
def withOrder (order : BitOrder) (s : SerialBus) : SerialBus := { s with order }

/-- The session with another bit order. -/
def selecting (order : BitOrder) (s : Session SerialBus τ) : Session SerialBus τ :=
  { s with driver := withOrder order s.driver }

/-- The command exchanges a byte or chooses the order. -/
def Command.isOrdered : Command → Bool
  | exchangeByte _ | setOrder _ => true
  | _ => false

/-- The order after a command. -/
def Command.orderAfter (order : BitOrder) : Command → BitOrder
  | setOrder chosen => chosen
  | _ => order

/-! ## Commands to which the order does not matter -/

section Ignoring

variable [ChipSupport.Build]

section Management

variable (order : BitOrder)

theorem ignores_attempt (line : String) (r : Request) :
    Ignores (withOrder order) (attempt line r).run :=
  (stateless_attempt line r).ignores _

theorem ignores_bringUp : Ignores (withOrder order) bringUp.run := by
  refine ChipSupport.Action.ignores_bind (ignores_attempt order _ .init) fun _ => ?_
  refine ChipSupport.Action.ignores_bind (ignores_attempt order _ (.routePins _)) fun _ => ?_
  refine ChipSupport.Action.ignores_bind (ignores_attempt order _ (.openOn _ _)) fun _ => ?_
  refine ChipSupport.Action.ignores_bind (ChipSupport.Action.ignores_modify fun _ => rfl) fun _ => ?_
  exact ChipSupport.Action.ignores_get_bind (fun _ => rfl) fun _ => ignores_attempt order _ _

theorem ignores_shutDown : Ignores (withOrder order) shutDown.run := by
  refine ChipSupport.Action.ignores_bind (ignores_attempt order _ .deinit) fun _ => ?_
  exact ChipSupport.Action.ignores_thenAlways (ignores_attempt order _ .close) (.modify fun _ => rfl)

theorem ignores_reconfigure (line : String) (edit : Config → Config) :
    Ignores (withOrder order) (reconfigure line edit).run := by
  refine ChipSupport.Action.ignores_bind (ChipSupport.Action.ignores_modify fun _ => rfl) fun _ => ?_
  exact ChipSupport.Action.ignores_get_bind (fun _ => rfl) fun _ => ignores_attempt order _ _

end Management

theorem stateless_refuse {α : Type} (line : String) :
    Stateless (refuse line : Action α).run :=
  ChipSupport.Action.stateless_report line _

theorem stateless_write (words : List UInt16) : Stateless (write words).run := by
  rw [write]
  split
  · exact stateless_refuse _
  · exact stateless_attempt _ (.write words)

theorem stateless_read (buffer : List UInt16) : Stateless (read buffer) := by
  rw [read]
  split
  · exact (stateless_refuse _).bind fun _ => .pure _
  · refine (stateless_attempt _ (.read buffer.length)).bind fun answer => ?_
    cases answer with
    | ok words => exact .pure _
    | error e => exact (Stateless.lift _).bind fun stored => .pure _

theorem stateless_send (words : List UInt16) : Stateless (send words).run := by
  rw [send]
  split
  · exact .pure _
  · exact stateless_write words

theorem stateless_fill (buffer : List UInt16) : Stateless (fill buffer) := by
  rw [fill]
  split
  · exact .pure _
  · exact stateless_read buffer

/-- All commands but two do the same in either order, and keep it. -/
theorem ignores_perform (order : BitOrder) {c : Command} (hc : c.isOrdered = false) :
    Ignores (withOrder order) (perform c) := by
  cases c with
  | bringUp => exact ignores_bringUp order
  | shutDown => exact ignores_shutDown order
  | setDivider divider => exact ignores_reconfigure order _ _
  | setMode mode => exact ignores_reconfigure order _ _
  | setLoopback enable => exact Stateless.ignores (.lift _) _
  | setOrder chosen => cases hc
  | exchangeByte byte => cases hc
  | write words => exact (stateless_write words).ignores _
  | read buffer => exact (stateless_read buffer).ignores _
  | send words => exact (stateless_send words).ignores _
  | fill buffer => exact (stateless_fill buffer).ignores _
  | transfer words buffer => exact (stateless_transfer words buffer).ignores _
  | transferInPlace buffer =>
    -- it is the transfer of a copy
    have heq : perform (.transferInPlace buffer) = transfer buffer buffer := transferInPlace_eq buffer
    rw [heq]
    exact (stateless_transfer buffer buffer).ignores _
  | flush => exact Stateless.ignores (.pure _) _
  | withDebug sink => exact (Stateless.ignores (.lift _) _).bind fun _ => .modify fun _ => rfl

theorem turn_selecting (d : Device library τ) {c : Command} (hc : c.isOrdered = false)
    (order : BitOrder) (s : Session SerialBus τ) :
    (Session.performer d perform).turn c (selecting order s) =
      { (Session.performer d perform).turn c s with
        before := selecting order s
        after := selecting order ((Session.performer d perform).turn c s).after } :=
  Session.turn_of_ignores d (ignores_perform order hc) s

end Ignoring

/-! ## The exchange of a byte -/

/-- What a word that was received is to the application. -/
def fromWord (order : BitOrder) (word : UInt16) : UInt8 := order.arrange word.toUInt8

section Exchange

variable [ChipSupport.Build]

/-- To exchange a byte is to exchange a word; the driver's state tells the order and nothing else. -/
theorem course_exchangeByte (k : Surroundings library.interface ω) (w : ω) (byte : UInt8)
    (s u : SerialBus) :
    let x := ((exchange (s.order.arrange byte).toUInt16).run.run u).course k w
    ((perform (.exchangeByte byte)).run s).course k w =
      ⟨x.calls, (x.result.1.map (fromWord s.order), s), x.state⟩ := by
  intro x
  have hexchange : ((exchange (s.order.arrange byte).toUInt16).run.run s).course k w =
      ⟨x.calls, (x.result.1, s), x.state⟩ := (stateless_exchange _).course_eq k w s u
  have hrun : (perform (.exchangeByte byte)).run s =
      ((exchange (s.order.arrange byte).toUInt16 >>= fun word =>
        pure (fromWord s.order word) : Action UInt8).run).run s := rfl
  rw [hrun, ChipSupport.Action.run_bind, Program.course_run_bind hexchange]
  cases x.result.1 with
  | ok word => exact Course.behind_end _ _ _
  | error e => exact Course.behind_end _ _ _

theorem turn_exchangeByte (d : Device library τ) (byte : UInt8) (s : Session SerialBus τ)
    (u : SerialBus) :
    let word := (s.driver.order.arrange byte).toUInt16
    let x := ((exchange word).run.run u).course d.handler (s.device, s.console)
    (Session.performer d perform).turn (.exchangeByte byte) s =
      ⟨.exchangeByte byte, s, x.result.1.map (fromWord s.driver.order), x.calls,
        ⟨s.driver, x.state.1, x.state.2⟩⟩ := by
  intro word x
  rw [Session.turn_eq, Session.course, course_exchangeByte d.handler _ byte s.driver u]

/-- Only the choice of the order changes the order. -/
theorem order_after (d : Device library τ) (c : Command) (s : Session SerialBus τ) :
    ((Session.performer d perform).turn c s).after.driver.order = c.orderAfter s.driver.order := by
  by_cases hc : c.isOrdered = false
  · -- the driver keeps the order that it has, as it would keep any other
    have hkept := turn_selecting d hc s.driver.order s
    have horder : c.orderAfter s.driver.order = s.driver.order := by cases c <;> first | rfl | cases hc
    rw [horder]
    exact congrArg (fun turn => turn.after.driver.order) hkept
  · cases c with
    | setOrder chosen => rfl
    | exchangeByte byte => rw [turn_exchangeByte d byte s s.driver]; rfl
    | _ => exact absurd rfl hc

end Exchange

/-! ## The most significant bit first throughout -/

/-- The command with the most significant bit first, in place of the order that is selected. -/
def Command.relabel (order : BitOrder) : Command → Command
  | exchangeByte byte => exchangeByte (order.arrange byte)
  | setOrder _ => setOrder .msbFirst
  | c => c

/-- The commands with the most significant bit first throughout, if `order` is selected at first. -/
def relabelled : BitOrder → List Command → List Command
  | _, [] => []
  | order, c :: cs => c.relabel order :: relabelled (c.orderAfter order) cs

/-- The turn with the most significant bit first: if a byte is exchanged, both the byte and the answer
are in that order, and nothing else is different. -/
def relabelTurn : BusTurn τ → BusTurn τ
  | ⟨.exchangeByte byte, before, answer, calls, after⟩ =>
    ⟨.exchangeByte (before.driver.order.arrange byte), selecting .msbFirst before,
      answer.map before.driver.order.arrange, calls, selecting .msbFirst after⟩
  | ⟨.setOrder _, before, answer, calls, after⟩ =>
    ⟨.setOrder .msbFirst, selecting .msbFirst before, answer, calls, selecting .msbFirst after⟩
  | ⟨c, before, answer, calls, after⟩ =>
    ⟨c, selecting .msbFirst before, answer, calls, selecting .msbFirst after⟩

theorem after_relabelTurn (turn : BusTurn τ) :
    (relabelTurn turn).after = selecting .msbFirst turn.after := by
  obtain ⟨c, before, answer, calls, after⟩ := turn
  cases c <;> rfl

theorem calls_relabelTurn (turn : BusTurn τ) : (relabelTurn turn).calls = turn.calls := by
  obtain ⟨c, before, answer, calls, after⟩ := turn
  cases c <;> rfl

theorem log_map_relabelTurn (turns : List (BusTurn τ)) :
    Turn.log (turns.map relabelTurn) = Turn.log turns := by
  rw [Turn.log, List.flatMap_map]
  exact congrArg (List.flatMap · turns) (funext calls_relabelTurn)

theorem map_fromWord (order : BitOrder) (r : Except Error UInt16) :
    (r.map (fromWord order)).map order.arrange = r.map (fromWord .msbFirst) := by
  cases r with
  | ok word => exact congrArg Except.ok (order.arrange_arrange word.toUInt8)
  | error e => rfl

theorem turn_relabel [ChipSupport.Build] (d : Device library τ) (c : Command) (s : Session SerialBus τ) :
    (Session.performer d perform).turn (c.relabel s.driver.order) (selecting .msbFirst s) =
      relabelTurn ((Session.performer d perform).turn c s) := by
  cases c with
  | exchangeByte byte =>
    rw [Command.relabel, turn_exchangeByte d byte s s.driver, relabelTurn, map_fromWord]
    exact turn_exchangeByte d _ (selecting .msbFirst s) s.driver
  | setOrder chosen => rfl
  | _ => exact turn_selecting d rfl .msbFirst s

theorem play_relabelled [ChipSupport.Build] (d : Device library τ) (cs : List Command)
    (s : Session SerialBus τ) :
    let bus := Session.performer d perform
    bus.play (relabelled s.driver.order cs) (selecting .msbFirst s) =
      ((bus.play cs s).1.map relabelTurn, selecting .msbFirst (bus.play cs s).2) := by
  intro bus
  induction cs generalizing s with
  | nil => rfl
  | cons c cs ih =>
    -- the first turn is relabelled, and the other commands find the order that it has left
    have hlater := ih (bus.turn c s).after
    rw [order_after] at hlater
    rw [relabelled, Performer.play, turn_relabel, after_relabelTurn, hlater]
    rfl

/-! ## The word sent and the word received -/

/-- The words that a call sends. -/
def written? : Event library.interface → Option (List UInt16)
  | ⟨.request (.write words), _⟩ => some words
  | _ => none

/-- An exchange sends its word and no other. -/
theorem Exchanged.words_eq {word : UInt16} {calls : List (Event library.interface)}
    {r : Except Error UInt16} (h : Exchanged word calls r) {words : List UInt16}
    {reply : Except ChipSupport.Error Unit} (hmem : event (.write words) reply ∈ calls) :
    words = [word] := by
  have hwritten : calls.filterMap written? = [[word]] := by cases h <;> rfl
  have hwords : words ∈ calls.filterMap written? := List.mem_filterMap.2 ⟨_, hmem, rfl⟩
  rw [hwritten] at hwords
  exact List.mem_singleton.1 hwords

/-- The event, of words that are received the low bytes only. -/
def lowBytes : Event library.interface → Event library.interface
  | ⟨.request (.read count), .ok words⟩ => event (.read count) (.ok (words.map (· % 256)))
  | e => e

/-- The outcome that an event tells of: a byte that is received, or a failure. -/
def outcome? : Event library.interface → Option (Except Error UInt8)
  | ⟨.request (.read _), .ok words⟩ => words.toList.head?.map fun word => .ok word.toUInt8
  | ⟨.request _, .error e⟩ => some (.error (.library e))
  | _ => none

/-- The calls tell the outcome of an exchange, and they do so without the high bytes. -/
theorem Exchanged.outcome {word : UInt16} {calls : List (Event library.interface)}
    {r : Except Error UInt16} (h : Exchanged word calls r) :
    (calls.map lowBytes).filterMap outcome? = [r.map UInt16.toUInt8] := by
  cases h with
  | writeFailed e => rfl
  | readFailed e => rfl
  | made x =>
    have hlow : (x % 256).toUInt8 = x.toUInt8 :=
      (UInt16.toUInt8_eq _ _).2 (UInt16.toNat_inj.1 (Nat.mod_mod x.toNat 256))
    have hmasked : (round word x).map lowBytes = round word (x % 256) := by
      simp [round, lowBytes]
    rw [hmasked]
    exact congrArg (fun byte => [Except.ok byte]) hlow

/-- Exchanges whose calls agree but for the high bytes received have the same answer. -/
theorem outcome_of_lowBytes {order : BitOrder} {word word' : UInt16}
    {calls calls' : List (Event library.interface)} {r r' : Except Error UInt16}
    (h : Exchanged word calls r) (h' : Exchanged word' calls' r')
    (hcalls : calls.map lowBytes = calls'.map lowBytes) :
    r.map (fromWord order) = r'.map (fromWord order) := by
  have harrange (r : Except Error UInt16) :
      r.map (fromWord order) = (r.map UInt16.toUInt8).map order.arrange := by cases r <;> rfl
  have hlow : [r.map UInt16.toUInt8] = [r'.map UInt16.toUInt8] := by
    rw [← h.outcome, hcalls, h'.outcome]
  rw [harrange, harrange, (List.cons.inj hlow).1]

theorem toUInt16_lt (byte : UInt8) : byte.toUInt16 < 0x100 := by
  rw [UInt16.lt_iff_toNat_lt, UInt8.toNat_toUInt16]
  exact byte.toNat_lt

/-- What a turn does about the order of bits. -/
structure OrderPolicy (turn : BusTurn τ) : Prop where
  /-- Only the choice of the order changes the order. -/
  kept : turn.after.driver.order = turn.command.orderAfter turn.before.driver.order
  /-- To exchange a byte is to exchange one word: it is sent in the order that is selected, and the
  low byte of the word received is answered in that order. -/
  exchanged : ∀ byte before answer calls after,
    turn = ⟨.exchangeByte byte, before, answer, calls, after⟩ →
      ∃ r, Exchanged (before.driver.order.arrange byte).toUInt16 (libraryCalls calls) r ∧
        answer = r.map (fromWord before.driver.order)
  /-- The word that is sent for a byte has no high byte. -/
  sent : ∀ byte words reply, turn.command = .exchangeByte byte →
    event (.write words) reply ∈ turn.calls → ∀ word ∈ words, word < 0x100

theorem orderPolicy_turn [ChipSupport.Build] (d : Device library τ) (c : Command)
    (s : Session SerialBus τ) :
    OrderPolicy ((Session.performer d perform).turn c s) := by
  have hexchanged (byte : UInt8) :=
    runs_exchange (Program.runs_course (h := d.handler)
      ((exchange (s.driver.order.arrange byte).toUInt16).run.run s.driver) (s.device, s.console))
  constructor
  · exact order_after d c s
  · intro byte before answer calls after h
    obtain rfl : c = .exchangeByte byte := congrArg Turn.command h
    rw [turn_exchangeByte d byte s s.driver] at h
    obtain ⟨-, rfl, hanswer, rfl, -⟩ := Turn.mk.inj h
    exact ⟨_, hexchanged byte, (eq_of_heq hanswer).symm⟩
  · intro byte words reply hc hmem
    obtain rfl : c = .exchangeByte byte := hc
    rw [turn_exchangeByte d byte s s.driver] at hmem
    have hcall := (hexchanged byte).words_eq (List.mem_filter.2 ⟨hmem, rfl⟩)
    rw [hcall]
    exact List.forall_mem_singleton.2 (toUInt16_lt _)

/-! ## Bytes that come back -/

section Echo

variable [ChipSupport.Build]

/-- If the turn exchanges a byte, the same byte comes back. -/
def Echoes : BusTurn τ → Prop
  | ⟨.exchangeByte byte, _, answer, _, _⟩ => answer = .ok byte
  | _ => True

omit [ChipSupport.Build] in
theorem fromWord_arrange (order : BitOrder) (byte : UInt8) :
    fromWord order (order.arrange byte).toUInt16 = byte := by
  rw [fromWord, UInt8.toUInt8_toUInt16, BitOrder.arrange_arrange]

theorem echoes_turn (c : Command) (s : Session SerialBus StandIn) (hs : s.device.Quiet) :
    Echoes ((Session.performer StandIn.serialBus perform).turn c s) := by
  cases c with
  | exchangeByte byte =>
    obtain ⟨calls, k, hturn, -⟩ :=
      Session.turn_doing StandIn.serialBus perform (.exchangeByte byte) s (twins_perform _)
    let word := (s.driver.order.arrange byte).toUInt16
    have hecho : (((exchange word).run.run s.driver).course StandIn.serialBus.alone
        s.device).result.1 = .ok word := StandIn.exchange_echoed hs word s.driver
    have hanswer : (doing StandIn.serialBus (perform (.exchangeByte byte)) s.driver
        s.device).result.1 = .ok byte := by
      rw [doing, course_exchangeByte StandIn.serialBus.alone s.device byte s.driver s.driver]
      show Except.map (fromWord s.driver.order) _ = _
      rw [hecho]
      exact congrArg Except.ok (fromWord_arrange s.driver.order byte)
    rw [hturn]
    exact hanswer
  | _ => trivial

theorem quiet_turn (c : Command) (s : Session SerialBus StandIn) (hs : s.device.Quiet) :
    ((Session.performer StandIn.serialBus perform).turn c s).after.device.Quiet := by
  obtain ⟨calls, k, hturn, -⟩ := Session.turn_doing StandIn.serialBus perform c s (twins_perform c)
  rw [hturn]
  exact Program.course_maintains (fun c t ht => ht.alone c) ((perform c).run s.driver) hs

/-- A stand-in without faults, and with nothing waiting to be received, hands every byte back. -/
theorem echoes_play (cs : List Command) (s : Session SerialBus StandIn) (hs : s.device.Quiet) :
    ∀ turn ∈ ((Session.performer StandIn.serialBus perform).play cs s).1, Echoes turn := by
  intro turn hmem
  obtain ⟨before, later, hsplit⟩ := List.append_of_mem hmem
  -- the turns before it have put nothing into the queue
  obtain ⟨c, u, rfl, hu⟩ := Performer.exists_turn
    (fun (_ : List (BusTurn StandIn)) c u hu => quiet_turn c u hu) cs [] hs hsplit
  exact echoes_turn c u hu

end Echo

/-! ## The order as a relabelling -/

/-- Over any commands and on any device, the choice of the order is a relabelling of the bytes that are
exchanged: with the most significant bit first throughout, the bytes and the answers arranged, the
calls, the failures and what becomes of device and console are the same.  To arrange a byte with the
least significant bit first is to put its bit `7 - i` in the place of bit `i`, and with the most
significant bit first there is nothing to do.  Every turn keeps to the policy; commands that do not
exchange a byte do the same in either order; the high byte of a word that is received says nothing;
and a stand-in without faults hands every byte back. -/
theorem order_relabels_bytes [ChipSupport.Build] {τ : Type} (d : Device library τ) (cs : List Command)
    (s : Session SerialBus τ) :
    let bus := Session.performer d perform
    bus.play (relabelled s.driver.order cs) (selecting .msbFirst s) =
        ((bus.play cs s).1.map relabelTurn, selecting .msbFirst (bus.play cs s).2) ∧
      (∀ (byte : UInt8) (i : Nat), i < 8 →
        (BitOrder.lsbFirst.arrange byte).toNat.testBit i = byte.toNat.testBit (7 - i) ∧
          (BitOrder.msbFirst.arrange byte).toNat.testBit i = byte.toNat.testBit i) ∧
      (∀ turn ∈ (bus.play cs s).1, OrderPolicy turn) ∧
      (∀ c, c.isOrdered = false → ∀ order,
        bus.turn c (selecting order s) =
          { bus.turn c s with
            before := selecting order s
            after := selecting order (bus.turn c s).after }) ∧
      (∀ (τ' : Type) (d' : Device library τ') (s' : Session SerialBus τ') (byte : UInt8),
        let turn := bus.turn (.exchangeByte byte) s
        let turn' := (Session.performer d' perform).turn (.exchangeByte byte) s'
        s.driver.order = s'.driver.order →
          (libraryCalls turn.calls).map lowBytes = (libraryCalls turn'.calls).map lowBytes →
            turn.answer = turn'.answer) ∧
      ∀ start : Session SerialBus StandIn, start.device.Quiet →
        ∀ turn ∈ ((Session.performer StandIn.serialBus perform).play cs start).1, Echoes turn := by
  intro bus
  have hpolicy : ∀ turn ∈ (bus.play cs s).1, OrderPolicy turn :=
    Performer.forall_turns (P := OrderPolicy) (orderPolicy_turn d) cs s
  refine ⟨play_relabelled d cs s, fun byte i hi => ⟨testBit_reverseBits byte hi, rfl⟩, hpolicy,
    fun c hc order => turn_selecting d hc order s, ?_, echoes_play cs⟩
  intro τ' d' s' byte turn turn' horder hcalls
  obtain ⟨r, hexchanged, hanswer⟩ :=
    (orderPolicy_turn d (.exchangeByte byte) s).exchanged byte s turn.answer turn.calls turn.after rfl
  obtain ⟨r', hexchanged', hanswer'⟩ :=
    (orderPolicy_turn d' (.exchangeByte byte) s').exchanged byte s' turn'.answer turn'.calls
      turn'.after rfl
  rw [hanswer, hanswer', horder]
  exact outcome_of_lowBytes hexchanged hexchanged' hcalls

/-- Bytes with the least significant bit first come back from the stand-in, and the same words are sent
for their reversals with the most significant bit first. -/
theorem lsbFirst_bytes_echoed :
    let bus := Session.performer StandIn.serialBus (@perform {})
    let s : Session SerialBus StandIn := ⟨{}, {}, {}⟩
    s.device.Quiet ∧
      (∀ turn ∈ (bus.play [.setOrder .lsbFirst, .exchangeByte 0x1D] s).1, Echoes turn) ∧
      Turn.log (bus.play [.setOrder .lsbFirst, .exchangeByte 0x1D] s).1 =
        Turn.log (bus.play [.setOrder .msbFirst, .exchangeByte 0xB8] s).1 := by
  intro bus s
  have hquiet : s.device.Quiet := ⟨rfl, rfl⟩
  obtain ⟨hplay, -, -, -, -, hechoes⟩ :=
    @order_relabels_bytes {} _ StandIn.serialBus [.setOrder .lsbFirst, .exchangeByte 0x1D] s
  have hrelabelled : relabelled .msbFirst [.setOrder .lsbFirst, .exchangeByte 0x1D] =
      [.setOrder .msbFirst, .exchangeByte 0xB8] := by decide
  have hsame : bus.play [.setOrder .msbFirst, .exchangeByte 0xB8] s = _ :=
    hrelabelled ▸ hplay
  refine ⟨hquiet, hechoes s hquiet, ?_⟩
  rw [hsame, log_map_relabelTurn]

end BoardSupport.SerialBus
