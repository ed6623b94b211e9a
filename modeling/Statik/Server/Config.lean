import Statik.Core.Impls

/-!
# Server configuration

The fields a connection reads, and the casts it puts them through.
-/

namespace Statik

structure McServerConfig where
  maxPlayers : BitVec 32
  motd : String
  icon : Option String

/-- The position is three `f64`s, as bit patterns. -/
structure LimboConfig where
  x : BitVec 64
  y : BitVec 64
  z : BitVec 64
  gamemode : BitVec 32
  viewDistance : BitVec 32
  simulationDistance : BitVec 32
  dimension : String

structure CompressionConfig where
  enabled : Bool
  threshold : BitVec 32

structure ServerConfig where
  mc : McServerConfig
  limbo : LimboConfig
  compression : CompressionConfig

/-- The defaults of the configuration file. -/
def ServerConfig.default : ServerConfig :=
  { mc := { maxPlayers := 20, motd := "A Statik server!", icon := none },
    limbo :=
      -- 0.5, 64.0 and 0.5
      { x := 0x3fe0000000000000, y := 0x4050000000000000, z := 0x3fe0000000000000,
        gamemode := 1, viewDistance := 8, simulationDistance := 8,
        dimension := "minecraft:the_void" },
    compression := { enabled := false, threshold := 256 } }

/-- `x as i32` for an `f64` given by its bits: towards zero, saturating, and 0 for
a NaN. -/
def f64AsI32 (bits : BitVec 64) : BitVec 32 :=
  let exponent := bits.toNat / 2 ^ 52 % 2 ^ 11
  let fraction := bits.toNat % 2 ^ 52
  if exponent = 2047 ∧ fraction ≠ 0 then 0
  else
    let magnitude :=
      if exponent < 1023 then 0
      else (2 ^ 52 + fraction) * 2 ^ min (exponent - 1023) 32 / 2 ^ 52
    if bits.msb then BitVec.ofInt 32 (-(min magnitude (2 ^ 31) : Nat))
    else BitVec.ofNat 32 (min magnitude (2 ^ 31 - 1))

example : (f64AsI32 0x4050000000000000, f64AsI32 0xc045000000000000, f64AsI32 0x3fe0000000000000) =
    (64, -42, 0) := by decide

end Statik
