import RTKBase.GnssUart.EventLoopFrames
import RTKBase.GnssUart.FewFlips
import RTKBase.Lib.Segments

open lib.bit_polynomial lib.lts lib.scan

namespace rtkbase.gnss_uart

/-- The three bytes that carry a CRC. -/
def crcBytes (crc : BitVec 32) : List UInt8 :=
  [⟨crc.extractLsb' 16 8⟩, ⟨crc.extractLsb' 8 8⟩, ⟨crc.extractLsb' 0 8⟩]

/-- A message as RTCM3 frames it: the preamble, the length, the payload and the CRC
of all that. The firmware never builds a frame; this is what a receiver does. -/
def framed (payload : List UInt8) : List UInt8 :=
  let covered := 0xD3 :: UInt8.ofNat (payload.length / 256) ::
    UInt8.ofNat (payload.length % 256) :: payload
  covered ++ crcBytes (crc24q covered covered.length)

theorem rtcmReceived_crcBytes (data : List UInt8) {crc : BitVec 32} (hbelow : Below 24 crc) :
    rtcmReceived (data ++ crcBytes crc) (data.length + 3) = crc := by
  have hget : ∀ i < 3, (data ++ crcBytes crc).getD (data.length + i) 0 = (crcBytes crc).getD i 0 := by
    intro i _
    rw [List.getD_append_right _ _ _ _ (by omega), Nat.add_sub_cancel_left]
  rw [rtcmReceived, show data.length + 3 - 3 = data.length + 0 by omega,
    show data.length + 3 - 2 = data.length + 1 by omega,
    show data.length + 3 - 1 = data.length + 2 by omega, hget 0 (by omega), hget 1 (by omega),
    hget 2 (by omega)]
  refine BitVec.eq_of_getLsbD_eq fun i hi => ?_
  simp only [crcBytes, List.getD_cons_zero, List.getD_cons_succ, BitVec.getLsbD_or,
    BitVec.getLsbD_shiftLeft, BitVec.getLsbD_setWidth, BitVec.getLsbD_extractLsb']
  by_cases hlow : i < 8
  · simp [hlow, hi, show i < 16 by omega]
  · by_cases hmiddle : i < 16
    · simp [hlow, hmiddle, hi, show i - 8 < 8 by omega, show i - 8 < 32 by omega,
        show 8 + (i - 8) = i by omega]
    · by_cases hhigh : i < 24
      · simp [hlow, hmiddle, hi, show ¬ i - 8 < 8 by omega, show i - 16 < 8 by omega,
          show i - 16 < 32 by omega, show 16 + (i - 16) = i by omega]
      · rw [hbelow i (by omega)]
        simp [hlow, hmiddle, hi, show ¬ i - 8 < 8 by omega, show ¬ i - 16 < 8 by omega]

theorem rtcmLen_of_length : ∀ n < 1024,
    rtcmLen (UInt8.ofNat (n / 256)) (UInt8.ofNat (n % 256)) = n := by decide +kernel

theorem framed_length (payload : List UInt8) : (framed payload).length = payload.length + 6 := by
  simp [framed, crcBytes]

/-- A payload that the length field can tell is framed as the splitter expects it. -/
theorem framed_rtcmFrame {payload : List UInt8} (hlength : payload.length ≤ 1023) :
    RtcmFrame (framed payload) where
  preamble := rfl
  length := by
    have hlen := rtcmLen_of_length payload.length (by omega)
    rw [framed_length]
    change payload.length + 6 =
      6 + rtcmLen (UInt8.ofNat (payload.length / 256)) (UInt8.ofNat (payload.length % 256))
    omega
  crc := by
    have htotal : (framed payload).length - 3 = payload.length + 3 := by rw [framed_length]; omega
    rw [htotal, framed_length]
    unfold framed
    have hcovered : (0xD3 :: UInt8.ofNat (payload.length / 256) ::
        UInt8.ofNat (payload.length % 256) :: payload).length = payload.length + 3 := rfl
    generalize 0xD3 :: UInt8.ofNat (payload.length / 256) ::
      UInt8.ofNat (payload.length % 256) :: payload = covered at hcovered
    have hreceived := rtcmReceived_crcBytes covered
      (crc24q_remainder covered covered.length).below
    rw [hcovered] at hreceived
    simp only [hcovered]
    rw [show payload.length + 6 = payload.length + 3 + 3 by omega, hreceived]
    unfold crc24q
    rw [← hcovered, List.take_left, List.take_length]

/-- The verdict on a whole frame is the CRC's. -/
theorem rtcmJudge_whole {frame : List UInt8}
    (hlength : frame.length = 6 + rtcmLen (frame.getD 1 0) (frame.getD 2 0))
    (hpayload : 7 ≤ frame.length) :
    rtcmJudge frame =
      if rtcmCrcOk frame frame.length then .accept frame.length else .reject frame.length := by
  match frame with
  | [] => simp at hpayload
  | [_] => simp at hpayload
  | [_, _] => simp at hpayload
  | d :: b1 :: b2 :: rest =>
    have hbytes : (d :: b1 :: b2 :: rest).map Octet.byte = d :: b1 :: b2 :: rest := List.map_id _
    have htotal : 3 + rtcmLen (Octet.byte b1) (Octet.byte b2) + 3 =
        (d :: b1 :: b2 :: rest).length := by
      have hlength' : (d :: b1 :: b2 :: rest).length = 6 + rtcmLen b1 b2 := hlength
      change 3 + rtcmLen b1 b2 + 3 = _
      omega
    rw [rtcmJudge_cons, hbytes, htotal, if_neg (by omega), if_neg (by simp)]

/-- What a receiver sends: messages, lines of text and other bytes between them,
and messages that something has happened to on the wire. -/
inductive ReceiverOutput where
  | message (payload : List UInt8)
  | text (bytes : List UInt8)
  | damaged (payload error : List UInt8)

def ReceiverOutput.bytes : ReceiverOutput → List UInt8
  | .message payload => framed payload
  | .text bytes => bytes
  | .damaged payload error => corrupted (framed payload) error

def ReceiverOutput.frame? : ReceiverOutput → Option (List UInt8)
  | .message payload => some (framed payload)
  | _ => none

def Payload (payload : List UInt8) : Prop := 1 ≤ payload.length ∧ payload.length ≤ 1023

/-- No 0xD3 stands in the text, nor behind the preamble of a damaged message, whose
error spares the header and is a short burst or has few bits. -/
def ReceiverOutput.WellFormed : ReceiverOutput → Prop
  | .message payload => Payload payload
  | .text bytes => 0xD3 ∉ bytes
  | .damaged payload error =>
    Payload payload ∧ error.take 3 = [0, 0, 0] ∧
      (Burst (framed payload) error ∨ FewFlips (framed payload) error) ∧
      0xD3 ∉ (corrupted (framed payload) error).tail

def ReceiverOutput.segment : ReceiverOutput → Segment UInt8
  | .message payload => .frame (framed payload)
  | .text bytes => .gap bytes
  | .damaged payload error => .damaged (corrupted (framed payload) error)

theorem rtcm_start_false {b : UInt8} (hb : b ≠ 0xD3) : (rtcm UInt8).start b = false :=
  beq_eq_false_iff_ne.mpr hb

theorem judge_framed {payload : List UInt8} (hpayload : Payload payload) :
    rtcmJudge (framed payload) = .accept (framed payload).length := by
  have hframe := framed_rtcmFrame hpayload.2
  have hlength := framed_length payload
  have hlow := hpayload.1
  rw [rtcmJudge_whole hframe.length (by omega), if_pos hframe.crc_ok]

/-- A damaged message is rejected as a whole. -/
theorem judge_damaged {payload error : List UInt8} (hpayload : Payload payload)
    (hheader : error.take 3 = [0, 0, 0])
    (herror : Burst (framed payload) error ∨ FewFlips (framed payload) error) :
    ∃ rest, corrupted (framed payload) error = 0xD3 :: rest ∧
      rtcmJudge (corrupted (framed payload) error) =
        .reject (corrupted (framed payload) error).length := by
  have hframe := framed_rtcmFrame hpayload.2
  have hlength := framed_length payload
  have hlow := hpayload.1
  have hsame : error.length = (framed payload).length := by
    obtain hburst | hflips := herror
    · exact hburst.length
    · exact hflips.length
  have hwrong : rtcmCrcOk (corrupted (framed payload) error)
      (corrupted (framed payload) error).length = false := by
    obtain hburst | hflips := herror
    · exact corrupted_crc_wrong (by omega) hframe.crc_ok hburst
    · exact few_flips_crc_wrong hframe hflips
  obtain ⟨behind, rfl⟩ : ∃ behind, error = 0 :: 0 :: 0 :: behind :=
    ⟨error.drop 3, by rw [← List.take_append_drop 3 error, hheader]; rfl⟩
  have hcorrupted : (corrupted (framed payload) (0 :: 0 :: 0 :: behind)).length =
      (framed payload).length := by
    rw [corrupted, List.length_zipWith, hsame, Nat.min_self]
  refine ⟨_, rfl, ?_⟩
  have hfields : (corrupted (framed payload) (0 :: 0 :: 0 :: behind)).getD 1 0 =
        (framed payload).getD 1 0 ∧
      (corrupted (framed payload) (0 :: 0 :: 0 :: behind)).getD 2 0 = (framed payload).getD 2 0 :=
    ⟨UInt8.xor_zero, UInt8.xor_zero⟩
  rw [rtcmJudge_whole _ (by omega), hwrong]
  · rfl
  · rw [hcorrupted, hfields.1, hfields.2]
    exact hframe.length

theorem ReceiverOutput.segment_wellFormed {output : ReceiverOutput} (houtput : output.WellFormed) :
    output.segment.WellFormed (rtcm UInt8) := by
  cases output with
  | message payload => exact ⟨_, _, rfl, rfl, judge_framed houtput⟩
  | text bytes =>
    intro b hb
    exact rtcm_start_false fun heq => houtput (heq ▸ hb)
  | damaged payload error =>
    obtain ⟨hpayload, hheader, herror, htail⟩ := houtput
    obtain ⟨rest, hrest, hjudge⟩ := judge_damaged hpayload hheader herror
    refine ⟨0xD3, rest, hrest, rfl, hjudge, fun b hb => rtcm_start_false fun heq => ?_⟩
    rw [hrest, List.tail_cons] at htail
    exact htail (heq ▸ hb)

/-- The beginning of a message is undecided. -/
theorem pending_of_beginning {payload last : List UInt8} (hpayload : Payload payload)
    (hbeginning : last <+: framed payload) (hunfinished : last ≠ framed payload) :
    Pending (rtcm UInt8) last := by
  obtain ⟨more, hmore⟩ := hbeginning
  match last with
  | [] => exact .inl rfl
  | b :: rest =>
    have hstart : b = 0xD3 := by
      rw [List.cons_append] at hmore
      exact (List.cons.inj hmore).1
    refine .inr ⟨b, rest, rfl, by rw [hstart]; rfl, ?_⟩
    have hwhole := judge_framed hpayload
    rw [← hmore] at hwhole
    by_contra hdecided
    have hsame := (rtcm UInt8).judge_append (b :: rest) more hdecided
    have haccept : (rtcm UInt8).judge (b :: rest) = .accept (b :: rest ++ more).length :=
      hsame.symm.trans hwhole
    obtain ⟨_, hle, _⟩ := (rtcm UInt8).accept_extent _ _ haccept
    rw [List.length_append] at hle
    have hnone : more = [] := List.length_eq_zero_iff.mp (by omega)
    rw [hnone, List.append_nil] at hmore
    exact hunfinished hmore

variable {outputs : List ReceiverOutput} {last : List UInt8}

theorem referenceFrames_of_outputs (houtputs : ∀ output ∈ outputs, output.WellFormed)
    (hlast : Pending (rtcm UInt8) last) :
    referenceFrames (outputs.flatMap (·.bytes) ++ last) = outputs.filterMap (·.frame?) ∧
      RejectsInOrder (outputs.flatMap (·.bytes) ++ last) := by
  have hsegments : ∀ seg ∈ outputs.map (·.segment), seg.WellFormed (rtcm UInt8) := by
    intro seg hseg
    obtain ⟨output, houtput, rfl⟩ := List.mem_map.mp hseg
    exact ReceiverOutput.segment_wellFormed (houtputs output houtput)
  have hbytes : (outputs.map (·.segment)).flatMap (·.items) = outputs.flatMap (·.bytes) := by
    rw [List.flatMap_map]
    congr 1
    funext output
    cases output <;> rfl
  have hframes : (outputs.map (·.segment)).filterMap (·.frame?) = outputs.filterMap (·.frame?) := by
    rw [List.filterMap_map]
    congr 1
    funext output
    cases output <;> rfl
  rw [← hbytes, ← hframes]
  exact ⟨frames_segments hsegments hlast, (rejectEnds_segments hsegments hlast 0).1⟩

/-- What a receiver multiplexes, the splitter takes apart: over every stretch between
two resets of the event loop, however its bytes were cut into chunks, it publishes
exactly the messages that came through undamaged, framed as they were sent and in
their order. Text, damaged messages and a message that has only begun change nothing. -/
theorem multiplexed_messages_published {s : splitter_t UInt8} {r : GnssReader}
    (hreach : Reach loopStep Anywhere (gnssReaderStart s) r) {t : Stretch} (ht : t ∈ r.whole)
    (houtputs : ∀ output ∈ outputs, output.WellFormed) {payload : List UInt8}
    (hpayload : Payload payload) (hbeginning : last <+: framed payload)
    (hunfinished : last ≠ framed payload) (hbytes : t.bytes = outputs.flatMap (·.bytes) ++ last) :
    published t.events = outputs.filterMap (·.frame?) := by
  obtain ⟨hframes, horder⟩ :=
    referenceFrames_of_outputs houtputs (pending_of_beginning hpayload hbeginning hunfinished)
  rw [← hbytes] at hframes horder
  rw [(gnssReader_refines hreach).frames ht horder, hframes]

/-- Text, a message, the same message with a bit flipped, and the beginning of a
third one. -/
def sampleOutputs : List ReceiverOutput :=
  [.text [0x24, 0x47], .message [0x00], .damaged [0x00] [0, 0, 0, 0x01, 0, 0, 0]]

theorem sampleOutputs_wellFormed : ∀ output ∈ sampleOutputs, output.WellFormed := by
  have hflips : FewFlips (framed [0x00]) [0, 0, 0, 0x01, 0, 0, 0] := by
    refine ⟨?_, by decide +kernel⟩
    rw [framed_length]
    rfl
  have hdamaged : (ReceiverOutput.damaged [0x00] [0, 0, 0, 0x01, 0, 0, 0]).WellFormed :=
    ⟨⟨by decide, by decide⟩, rfl, .inr hflips, by decide +kernel⟩
  intro output houtput
  simp only [sampleOutputs, List.mem_cons, List.not_mem_nil, or_false] at houtput
  obtain rfl | rfl | rfl := houtput
  · exact show 0xD3 ∉ [0x24, 0x47] by decide
  · exact ⟨by decide, by decide⟩
  · exact hdamaged

/-- These eighteen bytes come in two chunks. -/
def multiplexRun : List LoopAction :=
  List.flatten [
    [.event (.UART_DATA 18), .uart_read_bytes (some [0x24, 0x47, 0xD3, 0x00, 0x01]),
      .post_raw_gnss_data_tcp, .console_push_bytes],
    List.replicate 6 (.turn 7000),
    [.uart_read_bytes (some [0x00, 0x0A, 0x18, 0x8D, 0xD3, 0x00, 0x01, 0x01, 0x0A, 0x18, 0x8D,
      0xD3, 0x00]), .post_raw_gnss_data_tcp, .console_push_bytes],
    List.replicate 21 (.turn 9000)]

theorem multiplexed_messages_published_of_sample :
    ∃ r, runs loopStep Anywhere (gnssReaderStart (zeroedSplitter 0)) multiplexRun = some r ∧
      ∃ t ∈ r.whole, t.bytes = sampleOutputs.flatMap (·.bytes) ++ [0xD3, 0x00] ∧
        published t.events = [framed [0x00]] := by
  have hrun : (runs loopStep Anywhere (gnssReaderStart (zeroedSplitter 0)) multiplexRun).map
      (fun r => r.whole.map (·.bytes)) =
        some [sampleOutputs.flatMap (·.bytes) ++ [0xD3, 0x00]] := by
    decide +kernel
  obtain ⟨r, hr, hwhole⟩ := Option.map_eq_some_iff.mp hrun
  obtain ⟨t, rest, hstretches, hbytes, _⟩ := List.map_eq_cons_iff.mp hwhole
  have ht : t ∈ r.whole := by simp [hstretches]
  have hbeginning : [0xD3, 0x00] <+: framed [0x00] := List.take_prefix 2 (framed [0x00])
  have hpayload : Payload [0x00] := ⟨by decide, by decide⟩
  exact ⟨r, hr, t, ht, hbytes, multiplexed_messages_published (Reach.refl.runs hr) ht
    sampleOutputs_wellFormed hpayload hbeginning (by decide +kernel) hbytes⟩

end rtkbase.gnss_uart
