import Statik.Proto.Common

namespace Statik
namespace V1_21_1

open Wire

namespace registries

/-- `all()`: the registries of the configuration burst in order, each with the
content of its data file. -/
def all (includeBytes : String → Bytes) : List (String × Bytes) :=
  [("minecraft:dimension_type", includeBytes "data/registry_dimension_type.bin"),
   ("minecraft:worldgen/biome", includeBytes "data/registry_worldgen_biome.bin"),
   ("minecraft:chat_type", includeBytes "data/registry_chat_type.bin"),
   ("minecraft:damage_type", includeBytes "data/registry_damage_type.bin"),
   ("minecraft:trim_pattern", includeBytes "data/registry_trim_pattern.bin"),
   ("minecraft:trim_material", includeBytes "data/registry_trim_material.bin"),
   ("minecraft:wolf_variant", includeBytes "data/registry_wolf_variant.bin"),
   ("minecraft:painting_variant", includeBytes "data/registry_painting_variant.bin"),
   ("minecraft:banner_pattern", includeBytes "data/registry_banner_pattern.bin"),
   ("minecraft:enchantment", includeBytes "data/registry_enchantment.bin"),
   ("minecraft:jukebox_song", includeBytes "data/registry_jukebox_song.bin")]

end registries

end V1_21_1

namespace V1_20_1

/-- `registry_bytes()`. -/
def registryBytes (includeBytes : String → Wire.Bytes) : Wire.Bytes :=
  includeBytes "../data/registry_1_20_1.nbt"

end V1_20_1
end Statik
