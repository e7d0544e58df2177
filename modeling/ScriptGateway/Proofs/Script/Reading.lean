import ScriptGateway.Proofs.Script.Trace
/-!
# Reading a request body

A body can be read in pieces of any sizes, with anything else in between. The pieces put together
are the beginning of the body, without a gap and without a byte twice, until it is used up.

* `Body.data_read`, `Body.position_read`: a body is its content with a position in it.
* `Piece`, `ReadOut`: the pieces that were read, and what they have to do with the body.
* `readOut_ofBytes`, `ReadOut.read`: nothing was read at first, and reading one piece more.
* `Move`: what happens to a session between two reads.
* `Session.readOut_moved`: what was read after any moves that leave the body in place.
* `Session.readOut_put`: a body that is put in place is read from its beginning.
-/

namespace ScriptGateway.Script

/-! ## 1. Where reading stands

The laws of a stored body with a position in it.
-/

namespace Body

theorem position_le (b : Body) : b.position ≤ b.content.length := by
  rw [position, content, List.length_append]
  exact Nat.le_add_right _ _

theorem drop_position (b : Body) : b.content.drop b.position = b.unread :=
  List.drop_left

theorem remaining_eq (b : Body) : b.remaining = b.unread.length := by
  rw [remaining, ← List.length_drop, drop_position]

/-- **What is read is what stands behind the position**, as much of it as is asked for. -/
theorem data_read (b : Body) (size : Nat) :
    (b.read size).1 = (b.content.drop b.position).take size := by
  rw [drop_position]
  rfl

/-- The position moves behind it. -/
theorem position_read (b : Body) (size : Nat) :
    (b.read size).2.position = b.position + min size b.remaining := by
  rw [remaining_eq, ← List.length_take]
  exact List.length_append

end Body

/-! ## 2. Pieces -/

/-- A piece of a body: how much was asked for, and what came. -/
structure Piece where
  size : Nat
  data : Bytes
  deriving DecidableEq, Repr

/-- All that came, in order. -/
def received (pieces : List Piece) : Bytes :=
  pieces.flatMap Piece.data

/-- How much was asked for in all. -/
def requested : List Piece → Nat
  | [] => 0
  | p :: pieces => p.size + requested pieces

theorem received_append (pieces pieces' : List Piece) :
    received (pieces ++ pieces') = received pieces ++ received pieces' :=
  List.flatMap_append

theorem requested_append (pieces pieces' : List Piece) :
    requested (pieces ++ pieces') = requested pieces + requested pieces' := by
  induction pieces with
  | nil => exact (Nat.zero_add _).symm
  | cons p pieces ih =>
    show p.size + requested (pieces ++ pieces') = p.size + requested pieces + requested pieces'
    rw [ih, Nat.add_assoc]

/-- **A body of which pieces were read**: each is what came next, as much of it as was asked for
and was left, and the body stands behind the last one. -/
structure ReadOut (content : Bytes) (pieces : List Piece) (body : Body) : Prop where
  piece : ∀ (before : List Piece) (p : Piece) (after : List Piece), pieces = before ++ p :: after →
    p.data = (content.drop (received before).length).take p.size ∧
      p.data.length = min p.size (content.length - (received before).length)
  all : received pieces = content.take (min (requested pieces) content.length)
  left : body.remaining = content.length - (received pieces).length
  position : body.position = (received pieces).length
  consumed : body.consumed = received pieces
  within : body.position ≤ content.length
  unchanged : body.content = content

theorem readOut_ofBytes (content : Bytes) : ReadOut content [] (.ofBytes content) where
  piece before p after h := absurd h.symm (by simp)
  all := by
    show [] = content.take (min 0 content.length)
    rw [Nat.zero_min]
    rfl
  left := rfl
  position := rfl
  consumed := rfl
  within := Nat.zero_le _
  unchanged := rfl

/-- The last piece of a list is the one at its end, or the list without that one has it. -/
theorem eq_concat_cases {γ : Type} {l before after : List γ} {a b : γ}
    (h : l ++ [a] = before ++ b :: after) :
    (before = l ∧ b = a) ∨ ∃ after', l = before ++ b :: after' := by
  rcases List.eq_nil_or_concat after with rfl | ⟨after', c, rfl⟩
  · obtain ⟨hl, ha⟩ := List.append_inj' h rfl
    exact .inl ⟨hl.symm, (List.singleton_inj.mp ha).symm⟩
  · rw [List.concat_eq_append, ← List.cons_append, ← List.append_assoc] at h
    exact .inr ⟨after', (List.append_inj' h rfl).1⟩

/-- **One piece more.** -/
theorem ReadOut.read {content : Bytes} {pieces : List Piece} {body : Body}
    (h : ReadOut content pieces body) (size : Nat) :
    ReadOut content (pieces ++ [⟨size, (body.read size).1⟩]) (body.read size).2 := by
  have now : received (pieces ++ [⟨size, (body.read size).1⟩]) =
      received pieces ++ (body.read size).1 := by
    rw [received_append]
    exact congrArg (received pieces ++ ·) (List.append_nil _)
  have data : (body.read size).1 = (content.drop (received pieces).length).take size := by
    rw [body.data_read, h.unchanged, h.position]
  have unchanged : (body.read size).2.content = content := by
    rw [body.content_read, h.unchanged]
  have consumed : (body.read size).2.consumed =
      received (pieces ++ [⟨size, (body.read size).1⟩]) := by
    rw [now, ← h.consumed]
    rfl
  have position : (body.read size).2.position =
      (received (pieces ++ [⟨size, (body.read size).1⟩])).length :=
    congrArg List.length consumed
  refine ⟨?_, ?_, ?_, position, consumed, ?_, unchanged⟩
  · intro before p after e
    rcases eq_concat_cases e with ⟨rfl, rfl⟩ | ⟨after', e'⟩
    · refine ⟨data, ?_⟩
      rw [data, List.length_take, List.length_drop]
    · exact h.piece before p after' e'
  · have all : requested (pieces ++ [⟨size, (body.read size).1⟩]) = requested pieces + size :=
      requested_append _ _
    have next : (received pieces).length = min (requested pieces) content.length := by
      rw [h.all, List.length_take]
      omega
    rw [now, all, data, next, h.all, ← List.take_add, List.take_eq_take_iff]
    omega
  · rw [Body.remaining, unchanged, position]
  · rw [← unchanged]
    exact (body.read size).2.position_le

/-! ## 3. What happens between two reads -/

variable {σ : Type}

/-- A host that has no bodies of its own. -/
def Host.Bodiless (h : Host σ) : Prop :=
  ∀ thread size host, (h.readBody thread size host).1 = []

/-- What happens to a session. -/
inductive Move (σ : Type) where
  /-- The script asks for something. -/
  | ask (op : Operation)
  /-- The owner of the context reads from it. -/
  | take (size : Nat)
  /-- The owner of the context puts a body in place. -/
  | put (content : Bytes)
  /-- Executions on other threads change the host. -/
  | elsewhere (host : σ)

/-- Whether a move leaves the body in place. -/
def Move.leavesBody : Move σ → Bool
  | put _ => false
  | _ => true

namespace Session

/-- The session after a move. -/
def move (h : Host σ) (s : Session σ) : Move σ → Session σ
  | .ask op => (perform h op s).2
  | .take size => { s with context := (s.context.readBody size).2 }
  | .put content => { s with context := s.context.setBody content }
  | .elsewhere host => { s with host }

/-- The piece that is read in a move. -/
def piece? (h : Host σ) (s : Session σ) : Move σ → Option Piece
  | .ask (.readBody size) => some ⟨size, (perform h (.readBody size) s).1⟩
  | .take size => some ⟨size, (s.context.readBody size).1⟩
  | _ => none

/-- The session after moves, one after another. -/
def moved (h : Host σ) (moves : List (Move σ)) (s : Session σ) : Session σ :=
  moves.foldl (move h) s

/-- The pieces that are read in moves, in order. -/
def pieces (h : Host σ) : List (Move σ) → Session σ → List Piece
  | [], _ => []
  | m :: moves, s => (s.piece? h m).toList ++ pieces h moves (s.move h m)

/-- Whether all that a session reads comes from its context. -/
def ReadsOwn (h : Host σ) (s : Session σ) : Prop :=
  h.Bodiless ∨ s.context.body.isPresent = true

/-- A session reads its context's body, also where there is none. -/
theorem readBody_own {h : Host σ} {s : Session σ} (hs : s.ReadsOwn h) (size : Nat) :
    (s.readBody h size).1 = (s.context.body.read size).1 ∧
      (s.readBody h size).2.context.body = (s.context.body.read size).2 := by
  unfold readBody
  by_cases hz : size = 0
  · subst hz
    refine ⟨(List.take_zero (l := s.context.body.unread)).symm, ?_⟩
    show s.context.body = ⟨s.context.body.consumed ++ s.context.body.unread.take 0, _⟩
    rw [List.take_zero, List.append_nil]
    rfl
  · rw [if_neg hz]
    cases hp : s.context.body.isPresent with
    | true => exact ⟨rfl, rfl⟩
    | false =>
      have bodiless : h.Bodiless := by
        rcases hs with hb | hp'
        · exact hb
        · rw [hp] at hp'
          cases hp'
      have nothing : s.context.body.consumed ++ s.context.body.unread = [] := by
        simpa [Body.isPresent, Body.content] using hp
      obtain ⟨consumed, unread⟩ := List.append_eq_nil_iff.mp nothing
      refine ⟨?_, ?_⟩
      · show (h.readBody s.context.thread size s.host).1 = s.context.body.unread.take size
        rw [bodiless, unread, List.take_nil]
      · show s.context.body = ⟨s.context.body.consumed ++ s.context.body.unread.take size,
          s.context.body.unread.drop size⟩
        rw [unread, List.take_nil, List.drop_nil, List.append_nil, ← unread]

/-- Who does not read leaves the body where it is. -/
theorem body_perform (h : Host σ) (op : Operation) (ho : ∀ size, op ≠ .readBody size)
    (s : Session σ) : (perform h op s).2.context.body = s.context.body := by
  cases op with
  | write data =>
    simp only [perform, write]
    split <;> rfl
  | setStatus status =>
    show (s.context.setStatus status).body = s.context.body
    rw [Context.setStatus_eq]
  | addHeader line =>
    show (s.context.addHeader line).body = s.context.body
    rw [Context.addHeader_eq]
  | replaceHeader line =>
    show (s.context.replaceHeader line).body = s.context.body
    rw [Context.replaceHeader_eq]
  | readBody size => exact absurd rfl (ho size)
  | _ => rfl

/-- A move that leaves the body in place leaves the session with its own body. -/
theorem ReadsOwn.move {h : Host σ} {s : Session σ} (hs : s.ReadsOwn h) {m : Move σ}
    (hm : m.leavesBody = true) : (s.move h m).ReadsOwn h := by
  refine hs.imp_right fun hp => ?_
  cases m with
  | ask op => exact (s.did_perform h op).hasBody.trans hp
  | take size => exact (s.context.body.isPresent_read size).trans hp
  | put content => cases hm
  | elsewhere host => exact hp

/-- **One move**: what it reads is one piece more. -/
theorem readOut_move {h : Host σ} {s : Session σ} {content : Bytes} {before : List Piece}
    (hs : s.ReadsOwn h) (hr : ReadOut content before s.context.body) {m : Move σ}
    (hm : m.leavesBody = true) :
    ReadOut content (before ++ (s.piece? h m).toList) (s.move h m).context.body := by
  cases m with
  | ask op =>
    cases op with
    | readBody size =>
      obtain ⟨data, body⟩ := readBody_own hs size
      show ReadOut content (before ++ [⟨size, (s.readBody h size).1⟩])
        (s.readBody h size).2.context.body
      rw [data, body]
      exact hr.read size
    | _ =>
      show ReadOut content (before ++ []) (perform h _ s).2.context.body
      rw [List.append_nil, body_perform h]
      · exact hr
      · intro size
        exact nofun
  | take size => exact hr.read size
  | put content => cases hm
  | elsewhere host =>
    show ReadOut content (before ++ []) s.context.body
    rw [List.append_nil]
    exact hr

/-- **All that was read after any moves**, with what was read before them. -/
theorem readOut_moves {h : Host σ} {s : Session σ} {content : Bytes} {before : List Piece}
    (hs : s.ReadsOwn h) (hr : ReadOut content before s.context.body) {moves : List (Move σ)}
    (hm : moves.all Move.leavesBody = true) :
    ReadOut content (before ++ s.pieces h moves) (s.moved h moves).context.body := by
  induction moves generalizing s before with
  | nil =>
    show ReadOut content (before ++ []) s.context.body
    rw [List.append_nil]
    exact hr
  | cons m moves ih =>
    obtain ⟨first, rest⟩ := Bool.and_eq_true_iff.mp hm
    show ReadOut content (before ++ ((s.piece? h m).toList ++ (s.move h m).pieces h moves))
      ((s.move h m).moved h moves).context.body
    rw [← List.append_assoc]
    exact ih (hs.move first) (readOut_move hs hr first) rest

/-- **A body of which nothing was read is read from its beginning.** -/
theorem readOut_moved {h : Host σ} {s : Session σ} {content : Bytes} (hs : s.ReadsOwn h)
    (hb : s.context.body = .ofBytes content) {moves : List (Move σ)}
    (hm : moves.all Move.leavesBody = true) :
    ReadOut content (s.pieces h moves) (s.moved h moves).context.body :=
  readOut_moves hs (hb ▸ readOut_ofBytes content) hm

/-- **A body that is put in place is read from its beginning**, whatever was read before. -/
theorem readOut_put {h : Host σ} {content : Bytes} (hb : h.Bodiless ∨ content ≠ [])
    (s : Session σ) (before : List (Move σ)) {moves : List (Move σ)}
    (hm : moves.all Move.leavesBody = true) :
    ReadOut content ((s.moved h (before ++ [.put content])).pieces h moves)
      (s.moved h (before ++ .put content :: moves)).context.body := by
  have there : (s.moved h (before ++ [.put content])).context.body = .ofBytes content := by
    unfold moved
    rw [List.foldl_append]
    rfl
  have own : (s.moved h (before ++ [.put content])).ReadsOwn h := by
    refine hb.imp_right fun hne => ?_
    rw [there]
    cases content with
    | nil => exact absurd rfl hne
    | cons b content => rfl
  have joined : s.moved h (before ++ .put content :: moves) =
      (s.moved h (before ++ [.put content])).moved h moves := by
    unfold moved
    rw [← List.foldl_append, List.append_assoc]
    rfl
  rw [joined]
  exact readOut_moved own there hm

end Session

/-! ## 4. Scripts -/

/-- What a script does, as moves. -/
def Program.moves (h : Host σ) (p : Program) (s : Session σ) : List (Move σ) :=
  (p.trace h s).map .ask

theorem Program.leavesBody_moves (h : Host σ) (p : Program) (s : Session σ) :
    (p.moves h s).all Move.leavesBody = true := by
  unfold Program.moves
  rw [List.all_map]
  exact List.all_eq_true.mpr fun _ _ => rfl

/-- A script leaves the session where its operations lead. -/
theorem Program.run_moved (h : Host σ) (p : Program) (s : Session σ) :
    (p.run h s).2 = s.moved h (p.moves h s) := by
  induction p generalizing s with
  | done => rfl
  | fail message => rfl
  | panic message => rfl
  | ask op next ih => exact ih (Session.perform h op s).1 (Session.perform h op s).2

end ScriptGateway.Script
