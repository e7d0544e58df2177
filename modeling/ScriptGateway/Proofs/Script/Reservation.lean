import ScriptGateway.Proofs.Script.FallbackPage
/-!
# Room for the fallback page

The buffer of the page is reserved before the first piece is pushed, so memory can run out there
and nowhere else: what is counted in advance is the size of the page, but for what the thread falls
short of the longest one.

* `Buffer`, `Buffer.pushAll?_eq_some_iff`: pieces that together have room are pushed one by one
  without ever growing the buffer.
* `pieces`: what the page is pushed in; `flatten_pieces`: together it is the page.
* `length_body_add`: the size that is reserved and the size of the page.
* `PageFits`, `page_fits`: all that is said of the reservation.
-/

namespace ScriptGateway.Script.FallbackPage

open Text (Html.escape Html.escapeChar Html.escapedSize)

/-! ## 1. Pushing into reserved room -/

/-- Bytes that were pushed into reserved room. -/
structure Buffer (room : Nat) where
  content : Bytes
  fits : content.length ≤ room

namespace Buffer

variable {room : Nat}

/-- The buffer into which nothing was pushed yet. -/
def empty (room : Nat) : Buffer room :=
  ⟨[], Nat.zero_le room⟩

/-- Pushes a piece; none if the buffer has to grow for it. -/
def push? (b : Buffer room) (piece : Bytes) : Option (Buffer room) :=
  if h : b.content.length + piece.length ≤ room then
    some ⟨b.content ++ piece, List.length_append ▸ h⟩
  else none

/-- Pushes pieces in order; none if the buffer has to grow for one of them. -/
def pushAll? (b : Buffer room) : List Bytes → Option (Buffer room)
  | [] => some b
  | piece :: rest => (b.push? piece).bind (·.pushAll? rest)

theorem eq_of_content {b b' : Buffer room} (h : b.content = b'.content) : b = b' := by
  cases b
  cases b'
  cases h
  rfl

theorem push?_eq_some_iff {b b' : Buffer room} {piece : Bytes} :
    b.push? piece = some b' ↔ b'.content = b.content ++ piece := by
  unfold push?
  split
  · rw [Option.some.injEq]
    exact ⟨fun h => h ▸ rfl, fun h => eq_of_content h.symm⟩
  · next narrow =>
    refine iff_of_false nofun fun h => narrow ?_
    rw [← List.length_append, ← h]
    exact b'.fits

/-- **No piece makes a buffer grow in which all of them have room.** -/
theorem pushAll?_eq_some_iff {b b' : Buffer room} {pieces : List Bytes} :
    b.pushAll? pieces = some b' ↔ b'.content = b.content ++ pieces.flatten := by
  induction pieces generalizing b with
  | nil =>
    rw [pushAll?, Option.some.injEq, List.flatten_nil, List.append_nil]
    exact ⟨fun h => h ▸ rfl, fun h => eq_of_content h.symm⟩
  | cons piece rest ih =>
    rw [pushAll?, Option.bind_eq_some_iff, List.flatten_cons, ← List.append_assoc]
    simp only [push?_eq_some_iff, ih]
    constructor
    · rintro ⟨next, pushed, others⟩
      rw [others, pushed]
    · intro h
      -- what is pushed first has room, since all of it does
      have first : (b.content ++ piece).length ≤ room := by
        have whole := b'.fits
        rw [h, List.length_append] at whole
        exact Nat.le_of_add_right_le whole
      exact ⟨⟨b.content ++ piece, first⟩, rfl, h⟩

/-- **What has room can be pushed in any pieces.** -/
theorem exists_pushAll? {bytes : Bytes} (h : bytes.length ≤ room) {pieces : List Bytes}
    (whole : pieces.flatten = bytes) :
    ∃ b, (empty room).pushAll? pieces = some b ∧ b.content = bytes := by
  refine ⟨⟨bytes, h⟩, ?_, rfl⟩
  rw [pushAll?_eq_some_iff, whole]
  rfl

end Buffer

/-! ## 2. The pieces of the page -/

/-- The page up to the script, as it is pushed. -/
def headPieces : List String :=
  ["<!DOCTYPE html>\n<html><head><title>", "php-embed-bridge", "</title></head>\n<body><h1>",
    "php-embed-bridge", " (fallback mode)</h1>\n<p>Script: <code>"]

/-- The page as it is pushed, the script character by character. -/
def pieces (script : String) (thread : Int32) : List String :=
  headPieces ++ script.toList.map (fun c => String.ofList (Html.escapeChar c))
    ++ [middle, toString thread.toInt, tail]

theorem ofText_append (s t : String) :
    Bytes.ofText (s ++ t) = Bytes.ofText s ++ Bytes.ofText t := by
  rw [Bytes.ofText, String.toList_append]
  exact List.flatMap_append

theorem flatten_headPieces : (headPieces.map Bytes.ofText).flatten = Bytes.ofText head := by
  have joined : headPieces.foldr (· ++ ·) "" = head := by decide +kernel
  rw [← joined]
  simp only [headPieces, List.map_cons, List.map_nil, List.flatten_cons, List.flatten_nil,
    List.foldr_cons, List.foldr_nil, ofText_append]
  rfl

theorem flatten_escaped (s : List Char) :
    ((s.map fun c => String.ofList (Html.escapeChar c)).map Bytes.ofText).flatten =
      Text.Utf8.encode (Text.Html.escapeChars s) := by
  induction s with
  | nil => rfl
  | cons c s ih =>
    rw [List.map_cons, List.map_cons, List.flatten_cons, ih, Bytes.ofText, String.toList_ofList]
    exact List.flatMap_append.symm

/-- **The pieces are the page**, in order. -/
theorem flatten_pieces (script : String) (thread : Int32) :
    ((pieces script thread).map Bytes.ofText).flatten = (response script thread).body := by
  have escaped : Text.Utf8.encode (Text.Html.escapeChars script.toList) =
      Bytes.ofText (Html.escape script) := by
    rw [Bytes.ofText, Text.Html.toList_escape]
  rw [body_response, text, Decimal.ofList_ofInt, pieces, List.map_append, List.map_append,
    List.flatten_append, List.flatten_append, flatten_headPieces, flatten_escaped, escaped]
  simp only [ofText_append, List.map_cons, List.map_nil, List.flatten_cons, List.flatten_nil,
    List.append_nil, List.append_assoc]

/-! ## 3. Sizes -/

theorem length_thread (thread : Int32) : (toString thread.toInt).length =
    (Decimal.ofInt thread.toInt).length := by
  rw [← Decimal.ofList_ofInt, String.length_ofList]

/-- **No thread is longer than the lowest one**, which has ten digits and a sign. -/
theorem length_thread_le (thread : Int32) : (toString thread.toInt).length ≤ 11 := by
  have low := thread.le_toInt
  have high := thread.toInt_lt
  rw [length_thread]
  exact Decimal.length_ofInt_le (by decide) (by omega) (by omega)

theorem utf8ByteSize_thread (thread : Int32) :
    (String.ofList (Decimal.ofInt thread.toInt)).utf8ByteSize = (toString thread.toInt).length := by
  have ascii : ∀ c ∈ Decimal.ofInt thread.toInt, c.toNat < 0x80 := by
    intro c hc
    rcases Decimal.of_mem_ofInt hc with rfl | digit
    · decide
    · obtain ⟨-, nine⟩ := Char.isDigit_iff_toNat.mp digit
      exact Nat.lt_of_le_of_lt nine (by decide)
  rw [← Text.Utf8.length_ofText, Bytes.ofText, String.toList_ofList,
    Text.Utf8.length_encode_ascii ascii, length_thread]

/-- **The page is as long as what is reserved**, with its thread in place of the longest one. -/
theorem length_body_add (script : String) (thread : Int32) :
    (response script thread).body.length + 11 = size script + (toString thread.toInt).length := by
  rw [body_response, Text.Utf8.length_ofText, text, size, threadDigits, Text.Html.escapedSize_eq]
  simp only [String.utf8ByteSize_append, utf8ByteSize_thread]
  omega

/-- What is reserved grows with the script, and with nothing else. -/
theorem size_le (script : String) : size script ≤ 6 * script.utf8ByteSize + 244 := by
  have own : head.utf8ByteSize + middle.utf8ByteSize + tail.utf8ByteSize + threadDigits = 244 := by
    decide +kernel
  have escaped := Text.Html.escapedSize_le script
  unfold size
  omega

/-! ## 4. The reservation -/

/-- **What is said of the room that is reserved for a page.** -/
structure PageFits (script : String) (thread : Int32) : Prop where
  /-- The script is counted as long as it is when escaped. -/
  counted : Html.escapedSize script = (Html.escape script).utf8ByteSize
  /-- The page has room. -/
  fits : (response script thread).body.length ≤ size script
  /-- What is left over is what the thread falls short of eleven characters. -/
  slack : size script - (response script thread).body.length = 11 - (toString thread.toInt).length
  /-- No thread is longer. -/
  short : (toString thread.toInt).length ≤ 11
  /-- The pieces that are pushed are the page. -/
  whole : ((pieces script thread).map Bytes.ofText).flatten = (response script thread).body
  /-- Whichever pieces the page is pushed in, none of them makes the buffer grow. -/
  steady : ∀ room, size script ≤ room → ∀ cut : List Bytes,
    cut.flatten = (response script thread).body →
    ∃ b, (Buffer.empty room).pushAll? cut = some b ∧ b.content = (response script thread).body
  /-- What is reserved is linear in the script: it is a number of 64 bits for every script of less
  than `2 ^ 61` bytes. -/
  bounded : size script ≤ 6 * script.utf8ByteSize + 244

/-- **The page never outgrows its reservation**, whatever script and thread it shows. -/
theorem page_fits (script : String) (thread : Int32) : PageFits script thread := by
  have sizes := length_body_add script thread
  have short := length_thread_le thread
  have fits : (response script thread).body.length ≤ size script := by omega
  exact ⟨Text.Html.escapedSize_eq script, fits, by omega, short, flatten_pieces script thread,
    fun room enough cut whole => Buffer.exists_pushAll? (Nat.le_trans fits enough) whole,
    size_le script⟩

end ScriptGateway.Script.FallbackPage
