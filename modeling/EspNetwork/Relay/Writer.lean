import Mathlib
import EspNetwork.Relay.Wire

/-!
# The server's write loop

`ProxyServer.writeLoop` takes serialised frames off its queue, collects whatever is there in
a `bufio.Writer` of 64 KiB and flushes. How the frames fall into batches, and which of them
the buffer passes on early, does not show on the stream.
-/

namespace EspNetwork.Relay

open Serial (Byte Bytes)

def bufioSize : Nat := 64 * 1024

/-- `bufio.Writer`: the buffered bytes and the writes made on the connection. -/
structure BufWriter where
  buf : Bytes
  conn : List Bytes

namespace BufWriter

def flush (w : BufWriter) : BufWriter :=
  if w.buf = [] then w else ⟨[], w.conn ++ [w.buf]⟩

/-- `Write`: what does not fit goes to the connection directly when the buffer is empty, and
fills the buffer up before a flush otherwise. -/
def write (w : BufWriter) (p : Bytes) : BufWriter :=
  let available := bufioSize - w.buf.length
  if available < p.length then
    if w.buf = [] then { w with conn := w.conn ++ [p] }
    else write ⟨[], w.conn ++ [w.buf ++ p.take available]⟩ (p.drop available)
  else { w with buf := w.buf ++ p }
termination_by p.length + w.buf.length
decreasing_by
  have := List.length_pos_iff.mpr ‹w.buf ≠ []›
  simp only [List.length_drop, List.length_nil]
  omega

/-- Everything handed to the writer so far. -/
def stream (w : BufWriter) : Bytes := w.conn.flatten ++ w.buf

theorem stream_flush (w : BufWriter) : w.flush.stream = w.stream := by
  by_cases h : w.buf = [] <;> simp [flush, stream, h]

theorem buf_flush (w : BufWriter) : w.flush.buf = [] := by
  by_cases h : w.buf = [] <;> simp [flush, h]

theorem stream_write (w : BufWriter) (p : Bytes) : (w.write p).stream = w.stream ++ p := by
  fun_induction write w p with
  | case1 w p available large empty => simp [stream, empty]
  | case2 w p available large full ih => rw [ih]; simp [stream]
  | case3 w p available small => simp [stream]

end BufWriter

/-- One turn of `writeLoop`: the frames found in the queue, then a flush. -/
def writeBatch (w : BufWriter) (batch : List Bytes) : BufWriter :=
  (batch.foldl BufWriter.write w).flush

/-- The writes on the relay connection after `writeLoop` took `batches` off its queue. -/
def writeLoop (batches : List (List Bytes)) : List Bytes :=
  (batches.foldl writeBatch ⟨[], []⟩).conn

theorem stream_writeBatch (w : BufWriter) (batch : List Bytes) :
    (writeBatch w batch).stream = w.stream ++ batch.flatten := by
  rw [writeBatch, BufWriter.stream_flush]
  induction batch generalizing w with
  | nil => simp
  | cons p batch ih => rw [List.foldl_cons, ih, BufWriter.stream_write]; simp

/-- The stream is the concatenation of the frames for every batching. -/
theorem writeLoop_flatten (batches : List (List Bytes)) :
    (writeLoop batches).flatten = batches.flatten.flatten := by
  have all : ∀ w : BufWriter, w.buf = [] →
      (batches.foldl writeBatch w).buf = [] ∧
        (batches.foldl writeBatch w).stream = w.stream ++ batches.flatten.flatten := by
    induction batches with
    | nil => intro w empty; simp [empty]
    | cons batch batches ih =>
      intro w empty
      obtain ⟨hbuf, hstream⟩ := ih (writeBatch w batch) (BufWriter.buf_flush _)
      refine ⟨hbuf, ?_⟩
      rw [List.foldl_cons, hstream, stream_writeBatch]
      simp
  obtain ⟨hbuf, hstream⟩ := all ⟨[], []⟩ rfl
  simpa [writeLoop, BufWriter.stream, hbuf] using hstream

end EspNetwork.Relay
