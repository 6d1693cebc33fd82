import ChainRelay.Proofs.Crypto.Points

/-!
# Encodings of points

A point has up to four encodings: its first coordinate under one of three tags, two of
which tell the parity of the second coordinate while the third leaves it at even, or both
coordinates under a fourth. What is read from bytes is the point that they encode, and
nothing else is read (`Point.ofBytes?_eq_some_iff`): thirty-two bytes are written again as
the number that they stand for (`Point.bigEndian_number`), and of two roots the one with
the parity that was asked for is taken (`Point.of_ofParity?_eq_some`).
-/

namespace ChainRelay.Secp256k1.Point

/-- How a point is encoded. -/
inductive Encodes : Bytes → Point → Prop
  /-- With the parity of the second coordinate. -/
  | compressed (p : Point) :
      Encodes ((if p.isOdd then 3 else 2) :: Sha256.bigEndian 32 p.x) p
  /-- With both coordinates. -/
  | uncompressed (p : Point) :
      Encodes (4 :: (Sha256.bigEndian 32 p.x ++ Sha256.bigEndian 32 p.y)) p
  /-- With the first coordinate only, if the second one is even. -/
  | compact (p : Point) : p.isOdd = false → Encodes (5 :: Sha256.bigEndian 32 p.x) p

/-! ## Numbers of bytes -/

theorem number_concat (bytes : Bytes) (b : UInt8) :
    number (bytes ++ [b]) = number bytes * 256 + b.toNat := by
  rw [number, List.foldl_append]
  rfl

theorem bigEndian_concat (count n : Nat) :
    Sha256.bigEndian (count + 1) n = Sha256.bigEndian count (n / 256) ++ [UInt8.ofNat n] := by
  rw [Sha256.bigEndian, List.range_succ, List.map_append, List.map_singleton, Sha256.bigEndian]
  congr 1
  · refine List.map_congr_left fun i hi => ?_
    rw [List.mem_range] at hi
    show UInt8.ofNat (n / 256 ^ (count + 1 - 1 - i)) = UInt8.ofNat (n / 256 / 256 ^ (count - 1 - i))
    rw [Nat.div_div_eq_div_mul, ← Nat.pow_succ',
      show count + 1 - 1 - i = count - 1 - i + 1 by omega]
  · simp

/-- Bytes are written again as the number that they stand for. -/
theorem bigEndian_number {count : Nat} {bytes : Bytes} (h : bytes.length = count) :
    Sha256.bigEndian count (number bytes) = bytes := by
  subst h
  induction bytes using List.reverseRecOn with
  | nil => rfl
  | append_singleton bytes b ih =>
    have hdiv : (number bytes * 256 + b.toNat) / 256 = number bytes := by
      have := b.toNat_lt
      omega
    have hlow : UInt8.ofNat (number bytes * 256 + b.toNat) = b := by
      rw [← UInt8.toNat_inj, UInt8.toNat_ofNat']
      have := b.toNat_lt
      omega
    rw [List.length_append, List.length_singleton, bigEndian_concat, number_concat, hdiv, hlow, ih]

/-! ## Reading -/

theorem of_ofCoordinates?_eq_some {x y : Nat} {p : Point} (h : ofCoordinates? x y = some p) :
    p.x = x ∧ p.y = y := by
  rw [ofCoordinates?] at h
  split_ifs at h
  cases h
  exact ⟨rfl, rfl⟩

/-- A point that is read from one coordinate has that one, and the parity asked for in
    the other. -/
theorem of_ofParity?_eq_some {x : Nat} {odd : Bool} {p : Point} (h : ofParity? x odd = some p) :
    p.x = x ∧ p.isOdd = odd := by
  have hroot := powMod_lt ((x * x * x + 7) % field) ((field + 1) / 4)
  rw [ofParity?] at h
  generalize powMod field ((x * x * x + 7) % field) ((field + 1) / 4) = y at h hroot
  rw [isOdd]
  split_ifs at h with hparity
  · obtain ⟨hx, hy⟩ := of_ofCoordinates?_eq_some h
    exact ⟨hx, by simp [hy, hparity]⟩
  · -- The other root has the other parity, since both add up to an odd number.
    obtain ⟨hx, hy⟩ := of_ofCoordinates?_eq_some h
    have hlt := p.onCurve.2.1
    have hfield : field % 2 = 1 := by decide
    refine ⟨hx, ?_⟩
    cases odd
    · simp only [Bool.false_eq_true, eq_iff_iff, iff_false, not_not] at hparity
      exact decide_eq_false (by omega)
    · simp only [eq_iff_iff, iff_true] at hparity
      exact decide_eq_true (by omega)

/-- Bytes are read as a point exactly if they encode it. -/
theorem ofBytes?_eq_some_iff {bytes : Bytes} {p : Point} :
    ofBytes? bytes = some p ↔ Encodes bytes p := by
  constructor
  · intro h
    cases bytes with
    | nil => cases h
    | cons tag rest =>
      rw [ofBytes?] at h
      split_ifs at h with hone htwo
      · obtain ⟨hlength, htag⟩ := hone
        obtain ⟨hx, hodd⟩ := of_ofParity?_eq_some h
        have hrest : rest = Sha256.bigEndian 32 p.x := by rw [hx, bigEndian_number hlength]
        rw [hrest]
        rcases htag with rfl | rfl | rfl
        · have := Encodes.compressed p
          rw [hodd] at this
          exact this
        · have := Encodes.compressed p
          rw [hodd] at this
          exact this
        · exact .compact p hodd
      · obtain ⟨hlength, rfl⟩ := htwo
        obtain ⟨hx, hy⟩ := of_ofCoordinates?_eq_some h
        have htake : (rest.take 32).length = 32 := by rw [List.length_take]; omega
        have hdrop : (rest.drop 32).length = 32 := by rw [List.length_drop]; omega
        have hrest : rest = Sha256.bigEndian 32 p.x ++ Sha256.bigEndian 32 p.y := by
          rw [hx, hy, bigEndian_number htake, bigEndian_number hdrop, List.take_append_drop]
        rw [hrest]
        exact .uncompressed p
  · intro h
    cases h with
    | compressed => exact ofBytes?_compressed p
    | uncompressed =>
      have hlength := length_bigEndian 32 p.x
      rw [ofBytes?, List.take_left' hlength, List.drop_left' hlength,
        number_bigEndian_of_lt p.onCurve.1, number_bigEndian_of_lt p.onCurve.2.1,
        ofCoordinates?_self]
      simp [length_bigEndian]
    | compact _ hodd =>
      have hself := ofParity?_self p
      rw [hodd] at hself
      rw [ofBytes?, number_bigEndian_of_lt p.onCurve.1]
      simpa [length_bigEndian] using hself

end ChainRelay.Secp256k1.Point
