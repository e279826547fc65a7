import Mathlib.Data.List.Induction
import SteelProxy.Proxy.Transparency
import SteelProxy.Proxy.BackendConnection

/-!
# Compression agreement with the backend

The framing that the last `C_LOGIN_COMPRESSION` announces (`protocolFraming`) against the one that
the connector keeps. The connector takes over positive thresholds only. It therefore agrees with
the backend, while it logs in and for the whole session, exactly when every announced threshold is
positive, or negative with no positive one before it (`compression_agrees_iff`).
-/

set_option autoImplicit false

namespace SteelProxy

open SteelProxy.Library SteelProxy.Library.Transition

namespace BackendConnector

/-- The threshold that a packet announces. -/
def announced (ids : ConnectorIds) (packet : RawPacket) : Option Int32 :=
  if packet.id = ids.loginCompression then (VarInt.read packet.payload).map Prod.fst else none

/-- The framing of the protocol after some packets, the threshold or none: a threshold of zero
compresses every packet, a negative one none. -/
def protocolFraming (ids : ConnectorIds) (packets : List RawPacket) : Option UInt32 :=
  (lastOf (announced ids) packets).bind fun threshold =>
    if 0 ≤ threshold then some threshold.toUInt32 else none

/-- The frames that the connector and the forwarder read and write follow the protocol. -/
structure FramingAgrees (ids : ConnectorIds) (r : Connected) : Prop where
  decoded : ∀ pre framing packet post, r.decoded = pre ++ (framing, packet) :: post →
    framing = protocolFraming ids (pre.map Prod.snd)
  decoder : r.decoder = protocolFraming ids (r.decoded.map Prod.snd)
  acknowledged : r.acknowledgement.compression =
    (protocolFraming ids (r.decoded.map Prod.snd)).map fun threshold => ⟨threshold, 4⟩
  forwarded : ∀ packetIds config playerUuid currentBackend inputs s tr,
    (Forwarding.system packetIds config).exec
        (.start (.new playerUuid currentBackend r.compressionThreshold)) inputs = some (s, tr) →
      ∀ frame ∈ tr.filterMap ForwardEvent.backendWrite, frame.compression =
        (protocolFraming ids (r.decoded.map Prod.snd)).map fun threshold => ⟨threshold, 4⟩

/-- Among the announcements that come first, each threshold is positive, or negative with no
positive one before it. -/
def SteadyAnnouncements (ids : ConnectorIds) (responses : List RawPacket) : Prop :=
  ∀ pre packet post threshold, responses = pre ++ packet :: post →
    (∀ q ∈ pre, q.id = ids.loginCompression) → announced ids packet = some threshold →
      0 < threshold ∨
        (threshold < 0 ∧ ∀ q ∈ pre, ∀ u, announced ids q = some u → ¬ 0 < u)

/-! ## The framing of the connector -/

/-- The framing of the connector after one more packet. -/
def trackFraming (ids : ConnectorIds) (framing : Option UInt32) (packet : RawPacket) :
    Option UInt32 :=
  match announced ids packet with
  | none => framing
  | some threshold => if 0 < threshold then some threshold.toUInt32 else framing

/-- The framing of the connector after some packets. -/
def connectorFraming (ids : ConnectorIds) (packets : List RawPacket) : Option UInt32 :=
  packets.foldl (trackFraming ids) none

section Framing

variable {ids : ConnectorIds} {pre packets : List RawPacket} {packet : RawPacket}
  {threshold : Int32}

theorem connectorFraming_append_one :
    connectorFraming ids (pre ++ [packet]) =
      trackFraming ids (connectorFraming ids pre) packet := by
  simp [connectorFraming]

theorem trackFraming_of_none {framing : Option UInt32} (h : announced ids packet = none) :
    trackFraming ids framing packet = framing := by
  rw [trackFraming, h]

theorem trackFraming_of_some {framing : Option UInt32} (h : announced ids packet = some threshold) :
    trackFraming ids framing packet =
      if 0 < threshold then some threshold.toUInt32 else framing := by
  rw [trackFraming, h]

theorem protocolFraming_of_none (h : announced ids packet = none) :
    protocolFraming ids (pre ++ [packet]) = protocolFraming ids pre := by
  rw [protocolFraming, lastOf_append_one, h, Option.none_or, protocolFraming]

theorem protocolFraming_of_some (h : announced ids packet = some threshold) :
    protocolFraming ids (pre ++ [packet]) =
      if 0 ≤ threshold then some threshold.toUInt32 else none := by
  rw [protocolFraming, lastOf_append_one, h, Option.some_or, Option.bind_some]

theorem toUInt32_ne_zero_of_pos (h : 0 < threshold) : threshold.toUInt32 ≠ 0 := by
  intro hzero
  have heq : threshold = 0 := by
    rw [← threshold.toInt32_toUInt32, hzero]
    rfl
  rw [heq] at h
  exact absurd h (by decide)

/-- The connector never frames with the threshold zero. -/
theorem connectorFraming_ne_zero : connectorFraming ids packets ≠ some 0 := by
  induction packets using List.reverseRecOn with
  | nil => simp [connectorFraming]
  | append_singleton pre packet ih =>
      rw [connectorFraming_append_one]
      cases h : announced ids packet with
      | none => rwa [trackFraming_of_none h]
      | some threshold =>
          rw [trackFraming_of_some h]
          by_cases hpos : 0 < threshold
          · rw [if_pos hpos]
            intro heq
            exact toUInt32_ne_zero_of_pos hpos (Option.some.inj heq)
          · rwa [if_neg hpos]

/-- The connector frames without compression until the first positive threshold. -/
theorem connectorFraming_eq_none_iff :
    connectorFraming ids packets = none ↔
      ∀ q ∈ packets, ∀ u, announced ids q = some u → ¬ 0 < u := by
  induction packets using List.reverseRecOn with
  | nil => simp [connectorFraming]
  | append_singleton pre packet ih =>
      rw [connectorFraming_append_one]
      cases h : announced ids packet with
      | none =>
          rw [trackFraming_of_none h, ih]
          simp [or_imp, forall_and, h]
      | some threshold =>
          rw [trackFraming_of_some h]
          by_cases hpos : 0 < threshold
          · simp only [if_pos hpos, reduceCtorEq, false_iff]
            intro hall
            exact hall packet (by simp) threshold h hpos
          · rw [if_neg hpos, ih]
            simp only [List.mem_append, List.mem_singleton, or_imp, forall_and, forall_eq, h,
              Option.some.injEq, forall_eq']
            exact ⟨fun hall => ⟨hall, hpos⟩, fun hall => hall.1⟩

/-- An announcement on which the two framings agree. -/
theorem framing_append_one_iff (h : announced ids packet = some threshold) :
    connectorFraming ids (pre ++ [packet]) = protocolFraming ids (pre ++ [packet]) ↔
      0 < threshold ∨
        (threshold < 0 ∧ ∀ q ∈ pre, ∀ u, announced ids q = some u → ¬ 0 < u) := by
  rw [connectorFraming_append_one, trackFraming_of_some h, protocolFraming_of_some h,
    ← connectorFraming_eq_none_iff]
  by_cases hpos : 0 < threshold
  · simp [hpos, Int32.le_of_lt hpos]
  · by_cases hneg : threshold < 0
    · have hnot : ¬ 0 ≤ threshold := Int32.not_le.2 hneg
      simp [hpos, hneg, hnot]
    · -- the threshold is zero: the protocol compresses, the connector never does so with zero
      have hzero : threshold = 0 :=
        Int32.le_antisymm (Int32.not_lt.1 hpos) (Int32.not_lt.1 hneg)
      subst hzero
      simp only [Int32.lt_irrefl, if_false, false_and, or_self, iff_false, Int32.le_refl, if_true]
      exact connectorFraming_ne_zero

end Framing

/-! ## The login loop -/

/-- Packets, each with the framing of the connector when it is read. -/
def framed (ids : ConnectorIds) (seen : List RawPacket) :
    List RawPacket → List (Option UInt32 × RawPacket)
  | [] => []
  | packet :: packets =>
      (connectorFraming ids seen, packet) :: framed ids (seen ++ [packet]) packets

section Login

variable {ids : ConnectorIds} {seen packets responses announcements rest pre post : List RawPacket}
  {packet finished : RawPacket} {framing : Option UInt32} {final : LoginLoop}
  {decoded : List (Option UInt32 × RawPacket)}

theorem map_snd_framed : (framed ids seen packets).map Prod.snd = packets := by
  induction packets generalizing seen with
  | nil => rfl
  | cons packet packets ih => rw [framed, List.map_cons, ih]

theorem framed_append :
    framed ids seen (pre ++ packets) = framed ids seen pre ++ framed ids (seen ++ pre) packets := by
  induction pre generalizing seen with
  | nil => rw [List.nil_append, List.append_nil, framed, List.nil_append]
  | cons packet pre ih =>
      rw [List.cons_append, framed, framed, ih, List.cons_append, List.append_assoc,
        List.singleton_append]

/-- A packet is read with the framing that the ones before it have led to. -/
theorem framing_of_framed {before after : List (Option UInt32 × RawPacket)}
    (h : framed ids seen packets = before ++ (framing, packet) :: after) :
    framing = connectorFraming ids (seen ++ before.map Prod.snd) := by
  induction before generalizing seen packets with
  | nil =>
      cases packets with
      | nil => cases h
      | cons first packets =>
          rw [framed, List.nil_append, List.cons.injEq, Prod.mk.injEq] at h
          rw [List.map_nil, List.append_nil, ← h.1.1]
  | cons entry before ih =>
      cases packets with
      | nil => cases h
      | cons first packets =>
          rw [framed, List.cons_append, List.cons.injEq] at h
          rw [ih h.2, List.map_cons, ← h.1, List.append_assoc, List.singleton_append]

theorem announced_of_id_ne (h : packet.id ≠ ids.loginCompression) :
    announced ids packet = none := by
  rw [announced, if_neg h]

/-- An arm of the loop that takes a threshold over. -/
theorem receiveCompression_eq_some_iff {state : LoginLoop} (hid : packet.id = ids.loginCompression)
    (hstate : state = ⟨connectorFraming ids seen, connectorFraming ids seen⟩) {state' : LoginLoop} :
    receiveCompression state packet.payload = some state' ↔
      (∃ threshold, announced ids packet = some threshold) ∧
        state' = ⟨connectorFraming ids (seen ++ [packet]),
          connectorFraming ids (seen ++ [packet])⟩ := by
  have hannounced : announced ids packet = (VarInt.read packet.payload).map Prod.fst := by
    rw [announced, if_pos hid]
  rw [receiveCompression, connectorFraming_append_one]
  cases hread : VarInt.read packet.payload with
  | none =>
      rw [hread, Option.map_none] at hannounced
      simp [hannounced]
  | some p =>
      rw [hread, Option.map_some] at hannounced
      rw [trackFraming_of_some hannounced, hannounced, Option.map_some, hstate]
      by_cases hpos : 0 < p.1
      · simp [hpos, eq_comm]
      · simp [hpos, eq_comm]

/-- A login that succeeds reads announcements, and then the packet that finishes it. -/
theorem loginLoop_eq_ok
    (h : loginLoop ids ⟨connectorFraming ids seen, connectorFraming ids seen⟩ responses =
      .ok (final, decoded)) :
    ∃ announcements finished rest, responses = announcements ++ finished :: rest ∧
      (∀ q ∈ announcements, ∃ threshold, announced ids q = some threshold) ∧
      finished.id ≠ ids.loginCompression ∧
      final = ⟨connectorFraming ids (seen ++ announcements),
        connectorFraming ids (seen ++ announcements)⟩ ∧
      decoded = framed ids seen (announcements ++ [finished]) := by
  induction responses generalizing seen decoded with
  | nil => cases h
  | cons response responses ih =>
      rw [loginLoop] at h
      by_cases hid : response.id = ids.loginCompression
      · rw [if_pos hid] at h
        cases hreceive : receiveCompression
            ⟨connectorFraming ids seen, connectorFraming ids seen⟩ response.payload with
        | none =>
            rw [hreceive] at h
            cases h
        | some state' =>
            obtain ⟨hannounced, rfl⟩ := (receiveCompression_eq_some_iff hid rfl).1 hreceive
            rw [hreceive] at h
            cases hlogin : loginLoop ids ⟨connectorFraming ids (seen ++ [response]),
                connectorFraming ids (seen ++ [response])⟩ responses with
            | error e => simp [hlogin] at h
            | ok p =>
                simp only [hlogin, Except.ok.injEq, Prod.mk.injEq] at h
                obtain ⟨rfl, rfl⟩ := h
                obtain ⟨announcements, finished, rest, rfl, hall, hfinished, hfinal, hdecoded⟩ :=
                  ih hlogin
                refine ⟨response :: announcements, finished, rest, rfl, ?_, hfinished, ?_, ?_⟩
                · intro q hq
                  rcases List.mem_cons.1 hq with rfl | hq
                  · exact hannounced
                  · exact hall q hq
                · rw [hfinal, List.append_assoc, List.singleton_append]
                · rw [hdecoded, List.cons_append, framed]
      · rw [if_neg hid] at h
        by_cases hfinished : response.id = ids.loginFinished
        · rw [if_pos hfinished, Except.ok.injEq, Prod.mk.injEq] at h
          obtain ⟨rfl, rfl⟩ := h
          exact ⟨[], response, responses, rfl, by simp, hid, by rw [List.append_nil], rfl⟩
        · rw [if_neg hfinished] at h
          cases h

/-! ## The announcements -/

/-- The announcements that come first are those that the loop reads. -/
theorem prefix_of_announcements (hfinished : finished.id ≠ ids.loginCompression)
    (hsplit : announcements ++ finished :: rest = pre ++ packet :: post)
    (hpre : ∀ q ∈ pre, q.id = ids.loginCompression) (hid : packet.id = ids.loginCompression) :
    pre ++ [packet] <+: announcements := by
  have hread : announcements ++ [finished] <+: announcements ++ finished :: rest :=
    ⟨rest, by simp⟩
  have hseen : pre ++ [packet] <+: announcements ++ finished :: rest := ⟨post, by simp [hsplit]⟩
  have hne : finished ∉ pre ++ [packet] := by
    intro hmem
    rcases List.mem_append.1 hmem with hmem | hmem
    · exact hfinished (hpre finished hmem)
    · rw [List.mem_singleton.1 hmem] at hfinished
      exact hfinished hid
  rcases List.prefix_or_prefix_of_prefix hseen hread with hle | hle
  · rcases List.prefix_concat_iff.1 hle with heq | hle
    · rw [heq] at hne
      exact absurd (by simp) hne
    · exact hle
  · exact absurd (hle.subset (by simp)) hne

/-- The two framings agree after every prefix of the announcements exactly when these are
steady. -/
theorem framings_agree_iff
    (hall : ∀ q ∈ announcements, ∃ threshold, announced ids q = some threshold)
    (hfinished : finished.id ≠ ids.loginCompression) :
    (∀ pre, pre <+: announcements → connectorFraming ids pre = protocolFraming ids pre) ↔
      SteadyAnnouncements ids (announcements ++ finished :: rest) := by
  constructor
  · intro hagree pre packet post threshold hsplit hpre hthreshold
    have hid : packet.id = ids.loginCompression := by
      by_contra hne
      rw [announced_of_id_ne hne] at hthreshold
      cases hthreshold
    exact (framing_append_one_iff hthreshold).1
      (hagree _ (prefix_of_announcements hfinished hsplit hpre hid))
  · intro hsteady pre hpre
    induction pre using List.reverseRecOn with
    | nil => rfl
    | append_singleton pre packet _ =>
        obtain ⟨post, hpost⟩ := hpre
        have hmem : ∀ q ∈ pre ++ [packet], ∃ threshold, announced ids q = some threshold := by
          intro q hq
          exact hall q (hpost ▸ List.mem_append_left post hq)
        obtain ⟨threshold, hthreshold⟩ := hmem packet (by simp)
        refine (framing_append_one_iff hthreshold).2
          (hsteady pre packet (post ++ finished :: rest) threshold ?_ ?_ hthreshold)
        · rw [← hpost]
          simp
        · intro q hq
          by_contra hne
          obtain ⟨u, hu⟩ := hmem q (List.mem_append_left _ hq)
          rw [announced_of_id_ne hne] at hu
          cases hu

end Login

/-! ## Agreement -/

section Agreement

variable {ids : ConnectorIds} {c : BackendConnector} {link : BackendLink} {r : Connected}

/-- A connection that succeeds ran the login loop to its end. -/
theorem connect_eq_ok (h : connect ids c link = .ok r) :
    loginLoop ids ⟨none, none⟩ link.responses =
        .ok (⟨r.decoder, r.compressionThreshold⟩, r.decoded) ∧
      r.acknowledgement.compression =
        r.compressionThreshold.map fun threshold => ⟨threshold, 4⟩ := by
  rw [connect] at h
  cases hlogin : loginLoop ids ⟨none, none⟩ link.responses with
  | error e =>
      rw [hlogin] at h
      split_ifs at h
  | ok p =>
      rw [hlogin] at h
      split_ifs at h
      cases h
      exact ⟨rfl, rfl⟩

/-- The connector and the forwarder agree with the backend when the decoder does, at every packet
of the login. -/
theorem framingAgrees_iff {announcements : List RawPacket} {finished : RawPacket}
    (hfinished : finished.id ≠ ids.loginCompression)
    (hdecoded : r.decoded = framed ids [] (announcements ++ [finished]))
    (hdecoder : r.decoder = connectorFraming ids announcements)
    (hthreshold : r.compressionThreshold = r.decoder)
    (hacknowledged : r.acknowledgement.compression =
      r.compressionThreshold.map fun threshold => ⟨threshold, 4⟩) :
    FramingAgrees ids r ↔
      ∀ pre, pre <+: announcements → connectorFraming ids pre = protocolFraming ids pre := by
  have hread : r.decoded.map Prod.snd = announcements ++ [finished] := by
    rw [hdecoded, map_snd_framed]
  have hlast : protocolFraming ids (r.decoded.map Prod.snd) =
      protocolFraming ids announcements := by
    rw [hread, protocolFraming_of_none (announced_of_id_ne hfinished)]
  constructor
  · intro hagrees pre hpre
    obtain ⟨post, rfl⟩ := hpre
    -- the packet that is read after `pre`
    obtain ⟨packet, post', hpost⟩ : ∃ packet post', post ++ [finished] = packet :: post' := by
      cases post with
      | nil => exact ⟨finished, [], rfl⟩
      | cons packet post => exact ⟨packet, post ++ [finished], rfl⟩
    have hsplit : r.decoded = framed ids [] pre ++
        (connectorFraming ids pre, packet) :: framed ids (pre ++ [packet]) post' := by
      rw [hdecoded, List.append_assoc, hpost, framed_append, List.nil_append, framed]
    have heq := hagrees.decoded _ _ _ _ hsplit
    rwa [map_snd_framed] at heq
  · intro hagree
    have hdecoderEq : r.decoder = protocolFraming ids (r.decoded.map Prod.snd) := by
      rw [hlast, hdecoder, hagree announcements List.prefix_rfl]
    refine ⟨?_, hdecoderEq, ?_, ?_⟩
    · intro pre framing packet post hsplit
      have hpre : pre.map Prod.snd <+: announcements := by
        have hmap : announcements ++ [finished] =
            pre.map Prod.snd ++ packet :: post.map Prod.snd := by
          rw [← hread, hsplit, List.map_append, List.map_cons]
        rcases List.prefix_concat_iff.1 ⟨packet :: post.map Prod.snd, hmap.symm⟩ with heq | hle
        · rw [heq] at hmap
          have hlength := congrArg List.length hmap
          simp at hlength
        · exact hle
      rw [hdecoded] at hsplit
      rw [framing_of_framed hsplit, List.nil_append, hagree _ hpre]
    · rw [hacknowledged, hthreshold, hdecoderEq]
    · intro packetIds config playerUuid currentBackend inputs s tr hrun frame hframe
      rw [(Forwarding.relaying_run hrun).transparent.toBackend] at hframe
      obtain ⟨packet, -, rfl⟩ := List.mem_map.1 hframe
      rw [← hdecoderEq, ← hthreshold]
      rfl

end Agreement

/-- Whenever `connect` succeeds, its framing and that of the forwarder are the ones that the
backend announced exactly when the announcements are steady. -/
theorem compression_agrees_iff (ids : ConnectorIds) (c : BackendConnector) (link : BackendLink)
    (r : Connected) (h : connect ids c link = .ok r) :
    FramingAgrees ids r ↔ SteadyAnnouncements ids link.responses := by
  obtain ⟨hlogin, hacknowledged⟩ := connect_eq_ok h
  -- the loop starts with what the connector has after no packet
  have hstart : loginLoop ids ⟨connectorFraming ids [], connectorFraming ids []⟩ link.responses =
      .ok (⟨r.decoder, r.compressionThreshold⟩, r.decoded) := hlogin
  obtain ⟨announcements, finished, rest, hresponses, hall, hfinished, hfinal, hdecoded⟩ :=
    loginLoop_eq_ok hstart
  rw [LoginLoop.mk.injEq, List.nil_append] at hfinal
  rw [hresponses, ← framings_agree_iff hall hfinished]
  exact framingAgrees_iff hfinished hdecoded hfinal.1 (hfinal.2.trans hfinal.1.symm) hacknowledged

/-- A backend that announces some thresholds and finishes the login. -/
def sampleLink (thresholds : List (List UInt8)) : BackendLink where
  opened := true
  handshakeSent := true
  helloSent := true
  responses := thresholds.map (⟨3, ·⟩) ++ [⟨2, []⟩]
  acknowledgementSent := true

theorem compression_agrees_sample :
    ∃ r, connect .sample ⟨"10.0.0.1", 25566, "alex", 1⟩ (sampleLink [[128, 2], [64]]) = .ok r ∧
      (FramingAgrees .sample r ↔
        SteadyAnnouncements .sample (sampleLink [[128, 2], [64]]).responses) := by
  obtain ⟨r, hr⟩ :
      ∃ r, connect .sample ⟨"10.0.0.1", 25566, "alex", 1⟩ (sampleLink [[128, 2], [64]]) = .ok r :=
    ⟨_, rfl⟩
  exact ⟨r, hr, compression_agrees_iff _ _ _ r hr⟩

/-- A backend that announces the threshold zero compresses every packet, and the connector reads
and writes uncompressed frames. -/
theorem zero_threshold_skipped :
    ∃ r, connect .sample ⟨"10.0.0.1", 25566, "alex", 1⟩ (sampleLink [[0]]) = .ok r ∧
      r.decoder = none ∧ r.acknowledgement.compression = none ∧
      protocolFraming .sample (r.decoded.map Prod.snd) = some 0 ∧ ¬ FramingAgrees .sample r := by
  refine ⟨_, rfl, rfl, rfl, by decide, ?_⟩
  intro hagrees
  exact absurd hagrees.decoder (by decide)

end BackendConnector

end SteelProxy
