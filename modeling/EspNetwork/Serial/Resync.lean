import EspNetwork.Serial.Codec

/-!
# Finding back into the stream

Line noise leaves a parser anywhere inside a bogus frame. The longest detour starts from a
lone `AA`: a `55` completes the magic, two length bytes announce the largest body, and 1028
bytes of body and CRC follow. Noise of 1031 bytes without a magic pair therefore ends every
detour, and what is left is nothing or one `AA`, which the next frame's first byte replaces.
-/

namespace EspNetwork.Serial

/-! ## Noise -/

/-- No adjacent pair `AA 55`. -/
def Quiet (g : Bytes) : Prop := ¬ [protoMagic0, protoMagic1] <:+: g

theorem quiet_iff_afterMagic {g : Bytes} : Quiet g ↔ afterMagic g = none := by
  unfold Quiet
  fun_induction afterMagic g with
  | case1 a b rest magic =>
    obtain ⟨rfl, rfl⟩ := magic
    simp only [reduceCtorEq, iff_false, not_not]
    exact ⟨[], rest, rfl⟩
  | case2 a b rest other ih =>
    rw [List.infix_cons_iff, not_or, ih]
    refine and_iff_right fun start => other ?_
    obtain ⟨rest', same⟩ := start
    simp only [List.cons_append, List.nil_append, List.cons.injEq] at same
    exact ⟨same.1.symm, same.2.1.symm⟩
  | case3 g short =>
    simp only [iff_true]
    intro within
    have := within.length_le
    rcases g with _ | ⟨a, _ | ⟨b, rest⟩⟩
    · simp at this
    · simp at this
    · exact short a b rest rfl

theorem afterMagic_tail {b : Byte} {g : Bytes} (h : afterMagic (b :: g) = none) :
    afterMagic g = none := by
  rw [← quiet_iff_afterMagic] at h ⊢
  exact fun within => h (within.trans (List.suffix_cons b g).isInfix)

/-! ## The assembler in noise -/

/-- Between frames: nothing kept, or one byte that may start the magic. -/
def Hunting (pend : Bytes) : Prop := pend = [] ∨ pend = [protoMagic0]

/-- A hunting assembler keeps hunting while no magic pair arrives. -/
theorem Hunting.feed {pend : Bytes} (h : Hunting pend) {g : Bytes}
    (quiet : afterMagic (pend ++ g) = none) : Hunting (assembler.feed pend g).1 := by
  induction g generalizing pend with
  | nil => exact h
  | cons b g ih =>
    rcases h with rfl | rfl
    · by_cases hb : b = protoMagic0
      · subst hb
        exact ih (.inr rfl) quiet
      · have step : assembler.step [] b = ([], []) := by simp [assembler, assemble, hb]
        rw [Transducer.feed_cons, step]
        exact ih (.inl rfl) (afterMagic_tail quiet)
    · have h1 : b ≠ protoMagic1 := by
        rintro rfl
        simp [afterMagic_magic] at quiet
      have rest : afterMagic (b :: g) = none := afterMagic_tail quiet
      by_cases h0 : b = protoMagic0
      · subst h0
        exact ih (.inr rfl) rest
      · have step : assembler.step [protoMagic0] b = ([], []) := by
          simp [assembler, assemble, h1, h0]
        rw [Transducer.feed_cons, step]
        exact ih (.inl rfl) (afterMagic_tail rest)

/-- How many bytes an unfinished frame can swallow at most before it is over. -/
def due : Bytes → Nat
  | [] => 0
  | [_] => 1031
  | [_, _] => 1030
  | [_, _, _] => 1029
  | _ :: _ :: h :: l :: rest => (ofPair h l).toNat + 2 - rest.length

/-- No unfinished frame swallows more than 1031 bytes. -/
theorem Unfinished.due_le {pend : Bytes} (h : Unfinished pend) : due pend ≤ 1031 := by
  cases h with
  | none | magic0 | magic1 | lenH => simp [due]
  | «open» h l rest valid short =>
    have := valid.2
    simp only [due, protoMaxPayload] at this ⊢
    omega

/-- A frame that has begun comes one byte closer to its end. -/
theorem due_assemble {pend : Bytes} (h : Unfinished pend) (begun : ¬ Hunting pend) (b : Byte) :
    due (assemble pend b).1 < due pend := by
  cases h with
  | none => exact absurd (.inl rfl) begun
  | magic0 => exact absurd (.inr rfl) begun
  | magic1 => simp [assemble, due]
  | lenH h =>
    by_cases valid : ValidLen (ofPair h b).toNat
    · have := valid.2
      simp only [assemble, valid, if_true, due, List.cons_append, List.nil_append,
        List.length_nil, protoMaxPayload] at this ⊢
      omega
    · simp [assemble, valid, due]
  | «open» h l rest valid short =>
    simp only [assemble]
    split
    · simp only [List.cons_append, due, List.length_append, List.length_singleton]
      omega
    · simp only [due]
      omega

/-- Enough noise without a magic pair ends every frame that had begun. -/
theorem Unfinished.feed_quiet {pend : Bytes} (h : Unfinished pend) {g : Bytes}
    (quiet : afterMagic g = .none) (long : due pend ≤ g.length) :
    Hunting (assembler.feed pend g).1 := by
  induction g generalizing pend with
  | nil =>
    cases h with
    | none => exact .inl rfl
    | «open» h l rest valid short => simp [due] at long; omega
    | _ => simp [due] at long
  | cons b g ih =>
    have next := (assemble_correct h b).1
    by_cases begun : Hunting pend
    · rcases begun with rfl | rfl
      · exact Hunting.feed (.inl rfl) quiet
      · by_cases h1 : b = protoMagic1
        · subst h1
          refine ih .magic1 (afterMagic_tail quiet) ?_
          simpa [due, assembler, assemble] using long
        · refine Hunting.feed (.inr rfl) ?_
          simpa [afterMagic, h1] using quiet
    · have closer := due_assemble h begun b
      refine ih next (afterMagic_tail quiet) ?_
      simp only [List.length_cons] at long
      exact Nat.le_of_lt_succ (closer.trans_le long)

/-- A hunting assembler reads encoded frames whole. -/
theorem Hunting.scan_encodeFrames {pend : Bytes} (h : Hunting pend) {fs : List ProtoFrame}
    (fits : ∀ f ∈ fs, f.payload.length ≤ protoMaxPayload) :
    scan (pend ++ (fs.map encodeFrame).flatten) = fs := by
  have read : scan (fs.map encodeFrame).flatten = fs := by
    rw [← List.nil_append (List.flatten _), ← (assembler_feed .none _).2,
      assembler_feed_encodeFrames fits]
  rcases h with rfl | rfl
  · exact read
  · cases fs with
    | nil => exact scan_eq_nil rfl
    | cons f fs => exact (scan_lone (show protoMagic0 ≠ protoMagic1 by decide) _).trans read

/-! ## The two parsers -/

/-- What a parser that tracks `pend` reads behind noise that ends the frame it is in. -/
theorem scan_resync {pend noise : Bytes} (h : Unfinished pend) (quiet : Quiet noise)
    (long : 1031 ≤ noise.length ∨ pend = []) {fs : List ProtoFrame}
    (fits : ∀ f ∈ fs, f.payload.length ≤ protoMaxPayload) :
    scan ((assembler.feed pend noise).1 ++ (fs.map encodeFrame).flatten) = fs := by
  rw [quiet_iff_afterMagic] at quiet
  refine Hunting.scan_encodeFrames (h.feed_quiet quiet ?_) fits
  rcases long with long | rfl
  · exact h.due_le.trans long
  · exact Nat.zero_le _

theorem Machine.Tracks.nil_of_state {m : Machine} {pend : Bytes} (t : m.Tracks pend)
    (h : m.state = .magic0) : pend = [] := by
  cases t with
  | magic0 => rfl
  | _ state => simp [state] at h

/-- A state that some bytes bring the new device parser to. -/
def ProtoParser.Reachable (p : ProtoParser) : Prop :=
  ∃ chunks, p = (protoParserFeedAll protoParserCreate chunks).1

/-- A state that some bytes bring the new host parser to. -/
def Parser.Reachable (p : Parser) : Prop := ∃ chunks, p = (newParser.feedAll chunks).1

theorem ProtoParser.Reachable.tracks {p : ProtoParser} (h : p.Reachable) :
    ∃ pend, Unfinished pend ∧ p.machine.Tracks pend := by
  obtain ⟨chunks, rfl⟩ := h
  rw [protoParserFeedAll, Transducer.feedChunks_eq_feed]
  exact ⟨_, (assembler_feed .none _).1, (deviceParser_feed protoParserCreate_tracks .none _).1⟩

theorem Parser.Reachable.tracks {p : Parser} (h : p.Reachable) :
    ∃ pend, Unfinished pend ∧ p.Tracks pend := by
  obtain ⟨chunks, rfl⟩ := h
  rw [Parser.feedAll, Transducer.feedChunks_eq_feed]
  exact ⟨_, (assembler_feed .none _).1, (hostParser_feed newParser_tracks .none _).1⟩

theorem protoParserFeedAll_resync {p : ProtoParser} (reachable : p.Reachable)
    {noise wire : List Bytes} {fs : List ProtoFrame} (quiet : Quiet noise.flatten)
    (long : 1031 ≤ noise.flatten.length ∨ p.state = .magic0)
    (fits : ∀ f ∈ fs, f.payload.length ≤ protoMaxPayload)
    (frames : wire.flatten = (fs.map encodeFrame).flatten) :
    (protoParserFeedAll (protoParserFeedAll p noise).1 wire).2 = fs := by
  obtain ⟨pend, unfinished, tracked⟩ := reachable.tracks
  simp only [protoParserFeedAll, Transducer.feedChunks_eq_feed]
  obtain ⟨behind, -⟩ := deviceParser_feed tracked unfinished noise.flatten
  obtain ⟨left, -⟩ := assembler_feed unfinished noise.flatten
  rw [(deviceParser_feed behind left _).2, frames]
  exact scan_resync unfinished quiet (long.imp_right tracked.nil_of_state) fits

theorem feedAll_resync {p : Parser} (reachable : p.Reachable)
    {noise wire : List Bytes} {fs : List ProtoFrame} (quiet : Quiet noise.flatten)
    (long : 1031 ≤ noise.flatten.length ∨ p.state = .magic0)
    (fits : ∀ f ∈ fs, f.payload.length ≤ protoMaxPayload)
    (frames : wire.flatten = (fs.map encodeFrame).flatten) :
    ((p.feedAll noise).1.feedAll wire).2 = fs.map hostView := by
  obtain ⟨pend, unfinished, tracked⟩ := reachable.tracks
  simp only [Parser.feedAll, Transducer.feedChunks_eq_feed]
  obtain ⟨behind, -⟩ := hostParser_feed tracked unfinished noise.flatten
  obtain ⟨left, -⟩ := assembler_feed unfinished noise.flatten
  rw [(hostParser_feed behind left _).2, frames]
  exact congrArg _ (scan_resync unfinished quiet (long.imp_right tracked.fields.nil_of_state) fits)

/-- **Both parsers find back into the stream.** From every reachable state, behind noise without
a magic pair that has 1031 bytes, or any length when no frame had begun, exactly the frames on
the wire are emitted. -/
theorem parsers_resync {noise wire : List Bytes} {fs : List ProtoFrame}
    (quiet : Quiet noise.flatten) (fits : ∀ f ∈ fs, f.payload.length ≤ protoMaxPayload)
    (frames : wire.flatten = (fs.map encodeFrame).flatten) :
    (∀ p : ProtoParser, p.Reachable → 1031 ≤ noise.flatten.length ∨ p.state = .magic0 →
      (protoParserFeedAll (protoParserFeedAll p noise).1 wire).2 = fs) ∧
    (∀ p : Parser, p.Reachable → 1031 ≤ noise.flatten.length ∨ p.state = .magic0 →
      ((p.feedAll noise).1.feedAll wire).2 = fs.map hostView) :=
  ⟨fun _ reachable long => protoParserFeedAll_resync reachable quiet long fits frames,
    fun _ reachable long => feedAll_resync reachable quiet long fits frames⟩

/-- Noise that ends in half a magic, read by two new parsers. -/
theorem parsers_resync_half :
    (protoParserFeedAll (protoParserFeedAll protoParserCreate [[0x55], [0xAA]]).1
        [encodeFrame ⟨1, 2, []⟩]).2 = [⟨1, 2, []⟩] ∧
      ((newParser.feedAll [[0x55], [0xAA]]).1.feedAll [encodeFrame ⟨1, 2, []⟩]).2 =
        [hostView ⟨1, 2, []⟩] := by
  have both := @parsers_resync [[0x55], [0xAA]] [encodeFrame ⟨1, 2, []⟩] [⟨1, 2, []⟩]
    (quiet_iff_afterMagic.mpr (by decide)) (by simp) (by simp)
  exact ⟨both.1 protoParserCreate ⟨[], rfl⟩ (.inr rfl), both.2 newParser ⟨[], rfl⟩ (.inr rfl)⟩

end EspNetwork.Serial
