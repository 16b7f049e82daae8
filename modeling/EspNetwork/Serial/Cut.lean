import EspNetwork.Serial.Codec

/-!
# Streams that are cut

What a reader has taken from a stream so far is a prefix of it. The frames of a prefix are a prefix
of the frames, and a frame that is not complete yet is no frame: a stream holds no more frames than
its length has room for.
-/

namespace EspNetwork.Serial

theorem scan_eq_feed (bs : Bytes) : scan bs = (assembler.feed [] bs).2 :=
  (assembler_feed .none bs).2.symm

/-- The frames of a prefix. -/
theorem scan_mono {bs cs : Bytes} (short : bs <+: cs) : scan bs <+: scan cs := by
  obtain ⟨rest, rfl⟩ := short
  rw [scan_eq_feed, scan_eq_feed, Transducer.feed_append]
  exact List.prefix_append _ _

/-- How many bytes a frame takes. -/
def frameSize (f : ProtoFrame) : ℕ := 8 + f.payload.length

theorem length_checkedFrame (h l : Byte) (body : Bytes) (c d : Byte) :
    ((checkedFrame h l body c d).map frameSize).sum ≤ body.length + 6 := by
  unfold checkedFrame
  split
  · split_ifs
    · simp [frameSize]
      omega
    · simp
  · simp

/-- A stream has room for its frames. -/
theorem length_scan (bs : Bytes) : ((scan bs).map frameSize).sum ≤ bs.length := by
  fun_induction scan bs with
  | case1 bs h l rest found len invalid ih =>
    have := afterMagic_length found
    simp only [List.length_cons] at this
    omega
  | case2 bs h l rest found len valid c d after long ih =>
    have behind := afterMagic_length found
    have body := length_checkedFrame h l (rest.take len) c d
    have whole := congrArg List.length long
    simp only [List.length_cons, List.length_drop, List.length_take, List.map_append,
      List.sum_append] at *
    omega
  | case3 | case4 => simp

/-- Behind whole frames, a frame that is not complete is not read. -/
theorem scan_cut {fs : List ProtoFrame} {f : ProtoFrame} {torso : Bytes}
    (fits : ∀ g ∈ fs, g.payload.length ≤ protoMaxPayload)
    (fits' : f.payload.length ≤ protoMaxPayload)
    (cut : torso <+: encodeFrame f) (short : torso ≠ encodeFrame f) :
    scan ((fs.map encodeFrame).flatten ++ torso) = fs := by
  have alone : scan torso = [] := by
    have sub : scan torso <+: [f] := by
      have whole := scan_mono cut
      rwa [scan_eq_feed (encodeFrame f), assembler_feed_encodeFrame fits'] at whole
    rcases List.prefix_cons_iff.mp sub with none | ⟨gs, one, empty⟩
    · exact none
    · obtain rfl := List.prefix_nil.mp empty
      have room := length_scan torso
      have strict : torso.length < (encodeFrame f).length := by
        refine lt_of_le_of_ne cut.length_le fun same => short ?_
        exact cut.eq_of_length same
      rw [one] at room
      simp only [List.map_cons, List.map_nil, List.sum_cons, List.sum_nil, frameSize] at room
      have size : (encodeFrame f).length = 8 + f.payload.length := by
        simp [encodeFrame, sealFrame, frameHead]
        omega
      omega
  rw [scan_eq_feed, Transducer.feed_append, assembler_feed_encodeFrames fits]
  rw [scan_eq_feed] at alone
  simp [alone]

/-- What the host has read of whole frames and a torso. -/
theorem feedAll_cut {fs : List ProtoFrame} {f : ProtoFrame} {torso : Bytes} {chunks : List Bytes}
    (fits : ∀ g ∈ fs, g.payload.length ≤ protoMaxPayload)
    (fits' : f.payload.length ≤ protoMaxPayload)
    (cut : torso <+: encodeFrame f) (short : torso ≠ encodeFrame f)
    (read : chunks.flatten <+: (fs.map encodeFrame).flatten ++ torso) :
    (newParser.feedAll chunks).2 <+: fs.map hostView ∧
      (chunks.flatten = (fs.map encodeFrame).flatten ++ torso →
        (newParser.feedAll chunks).2 = fs.map hostView) := by
  have whole := scan_cut fits fits' cut short
  rw [feedAll_eq_scan]
  constructor
  · rw [← whole]
    exact (scan_mono read).map hostView
  · intro all
    rw [all, whole]

end EspNetwork.Serial
