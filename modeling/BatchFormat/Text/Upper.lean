import BatchFormat.Text.Lower

/-!
# Single characters in the other case

The partner of one character in either case, for tools that change letters one by one and never
their number.
-/
namespace BatchFormat.Text

def upperRuns : List CaseRun :=
  [
    ⟨0x61, 0x7a, 0x1, 0x41⟩, ⟨0xb5, 0xb5, 0x1, 0x39c⟩, ⟨0xe0, 0xf6, 0x1, 0xc0⟩,
    ⟨0xf8, 0xfe, 0x1, 0xd8⟩, ⟨0xff, 0xff, 0x1, 0x178⟩, ⟨0x101, 0x12f, 0x2, 0x100⟩,
    ⟨0x131, 0x131, 0x1, 0x49⟩, ⟨0x133, 0x137, 0x2, 0x132⟩, ⟨0x13a, 0x148, 0x2, 0x139⟩,
    ⟨0x14b, 0x177, 0x2, 0x14a⟩, ⟨0x17a, 0x17e, 0x2, 0x179⟩, ⟨0x17f, 0x17f, 0x1, 0x53⟩,
    ⟨0x180, 0x180, 0x1, 0x243⟩, ⟨0x183, 0x185, 0x2, 0x182⟩, ⟨0x188, 0x188, 0x1, 0x187⟩,
    ⟨0x18c, 0x18c, 0x1, 0x18b⟩, ⟨0x192, 0x192, 0x1, 0x191⟩, ⟨0x195, 0x195, 0x1, 0x1f6⟩,
    ⟨0x199, 0x199, 0x1, 0x198⟩, ⟨0x19a, 0x19a, 0x1, 0x23d⟩, ⟨0x19e, 0x19e, 0x1, 0x220⟩,
    ⟨0x1a1, 0x1a5, 0x2, 0x1a0⟩, ⟨0x1a8, 0x1a8, 0x1, 0x1a7⟩, ⟨0x1ad, 0x1ad, 0x1, 0x1ac⟩,
    ⟨0x1b0, 0x1b0, 0x1, 0x1af⟩, ⟨0x1b4, 0x1b6, 0x2, 0x1b3⟩, ⟨0x1b9, 0x1b9, 0x1, 0x1b8⟩,
    ⟨0x1bd, 0x1bd, 0x1, 0x1bc⟩, ⟨0x1bf, 0x1bf, 0x1, 0x1f7⟩, ⟨0x1c5, 0x1c5, 0x1, 0x1c4⟩,
    ⟨0x1c6, 0x1c6, 0x1, 0x1c4⟩, ⟨0x1c8, 0x1c8, 0x1, 0x1c7⟩, ⟨0x1c9, 0x1c9, 0x1, 0x1c7⟩,
    ⟨0x1cb, 0x1cb, 0x1, 0x1ca⟩, ⟨0x1cc, 0x1cc, 0x1, 0x1ca⟩, ⟨0x1ce, 0x1dc, 0x2, 0x1cd⟩,
    ⟨0x1dd, 0x1dd, 0x1, 0x18e⟩, ⟨0x1df, 0x1ef, 0x2, 0x1de⟩, ⟨0x1f2, 0x1f2, 0x1, 0x1f1⟩,
    ⟨0x1f3, 0x1f3, 0x1, 0x1f1⟩, ⟨0x1f5, 0x1f5, 0x1, 0x1f4⟩, ⟨0x1f9, 0x21f, 0x2, 0x1f8⟩,
    ⟨0x223, 0x233, 0x2, 0x222⟩, ⟨0x23c, 0x23c, 0x1, 0x23b⟩, ⟨0x23f, 0x240, 0x1, 0x2c7e⟩,
    ⟨0x242, 0x242, 0x1, 0x241⟩, ⟨0x247, 0x24f, 0x2, 0x246⟩, ⟨0x250, 0x250, 0x1, 0x2c6f⟩,
    ⟨0x251, 0x251, 0x1, 0x2c6d⟩, ⟨0x252, 0x252, 0x1, 0x2c70⟩, ⟨0x253, 0x253, 0x1, 0x181⟩,
    ⟨0x254, 0x254, 0x1, 0x186⟩, ⟨0x256, 0x257, 0x1, 0x189⟩, ⟨0x259, 0x259, 0x1, 0x18f⟩,
    ⟨0x25b, 0x25b, 0x1, 0x190⟩, ⟨0x25c, 0x25c, 0x1, 0xa7ab⟩, ⟨0x260, 0x260, 0x1, 0x193⟩,
    ⟨0x261, 0x261, 0x1, 0xa7ac⟩, ⟨0x263, 0x263, 0x1, 0x194⟩, ⟨0x265, 0x265, 0x1, 0xa78d⟩,
    ⟨0x266, 0x266, 0x1, 0xa7aa⟩, ⟨0x268, 0x268, 0x1, 0x197⟩, ⟨0x269, 0x269, 0x1, 0x196⟩,
    ⟨0x26a, 0x26a, 0x1, 0xa7ae⟩, ⟨0x26b, 0x26b, 0x1, 0x2c62⟩, ⟨0x26c, 0x26c, 0x1, 0xa7ad⟩,
    ⟨0x26f, 0x26f, 0x1, 0x19c⟩, ⟨0x271, 0x271, 0x1, 0x2c6e⟩, ⟨0x272, 0x272, 0x1, 0x19d⟩,
    ⟨0x275, 0x275, 0x1, 0x19f⟩, ⟨0x27d, 0x27d, 0x1, 0x2c64⟩, ⟨0x280, 0x280, 0x1, 0x1a6⟩,
    ⟨0x282, 0x282, 0x1, 0xa7c5⟩, ⟨0x283, 0x283, 0x1, 0x1a9⟩, ⟨0x287, 0x287, 0x1, 0xa7b1⟩,
    ⟨0x288, 0x288, 0x1, 0x1ae⟩, ⟨0x289, 0x289, 0x1, 0x244⟩, ⟨0x28a, 0x28b, 0x1, 0x1b1⟩,
    ⟨0x28c, 0x28c, 0x1, 0x245⟩, ⟨0x292, 0x292, 0x1, 0x1b7⟩, ⟨0x29d, 0x29d, 0x1, 0xa7b2⟩,
    ⟨0x29e, 0x29e, 0x1, 0xa7b0⟩, ⟨0x345, 0x345, 0x1, 0x399⟩, ⟨0x371, 0x373, 0x2, 0x370⟩,
    ⟨0x377, 0x377, 0x1, 0x376⟩, ⟨0x37b, 0x37d, 0x1, 0x3fd⟩, ⟨0x3ac, 0x3ac, 0x1, 0x386⟩,
    ⟨0x3ad, 0x3af, 0x1, 0x388⟩, ⟨0x3b1, 0x3c1, 0x1, 0x391⟩, ⟨0x3c2, 0x3c2, 0x1, 0x3a3⟩,
    ⟨0x3c3, 0x3cb, 0x1, 0x3a3⟩, ⟨0x3cc, 0x3cc, 0x1, 0x38c⟩, ⟨0x3cd, 0x3ce, 0x1, 0x38e⟩,
    ⟨0x3d0, 0x3d0, 0x1, 0x392⟩, ⟨0x3d1, 0x3d1, 0x1, 0x398⟩, ⟨0x3d5, 0x3d5, 0x1, 0x3a6⟩,
    ⟨0x3d6, 0x3d6, 0x1, 0x3a0⟩, ⟨0x3d7, 0x3d7, 0x1, 0x3cf⟩, ⟨0x3d9, 0x3ef, 0x2, 0x3d8⟩,
    ⟨0x3f0, 0x3f0, 0x1, 0x39a⟩, ⟨0x3f1, 0x3f1, 0x1, 0x3a1⟩, ⟨0x3f2, 0x3f2, 0x1, 0x3f9⟩,
    ⟨0x3f3, 0x3f3, 0x1, 0x37f⟩, ⟨0x3f5, 0x3f5, 0x1, 0x395⟩, ⟨0x3f8, 0x3f8, 0x1, 0x3f7⟩,
    ⟨0x3fb, 0x3fb, 0x1, 0x3fa⟩, ⟨0x430, 0x44f, 0x1, 0x410⟩, ⟨0x450, 0x45f, 0x1, 0x400⟩,
    ⟨0x461, 0x481, 0x2, 0x460⟩, ⟨0x48b, 0x4bf, 0x2, 0x48a⟩, ⟨0x4c2, 0x4ce, 0x2, 0x4c1⟩,
    ⟨0x4cf, 0x4cf, 0x1, 0x4c0⟩, ⟨0x4d1, 0x52f, 0x2, 0x4d0⟩, ⟨0x561, 0x586, 0x1, 0x531⟩,
    ⟨0x10d0, 0x10fa, 0x1, 0x1c90⟩, ⟨0x10fd, 0x10ff, 0x1, 0x1cbd⟩, ⟨0x13f8, 0x13fd, 0x1, 0x13f0⟩,
    ⟨0x1c80, 0x1c80, 0x1, 0x412⟩, ⟨0x1c81, 0x1c81, 0x1, 0x414⟩, ⟨0x1c82, 0x1c82, 0x1, 0x41e⟩,
    ⟨0x1c83, 0x1c84, 0x1, 0x421⟩, ⟨0x1c85, 0x1c85, 0x1, 0x422⟩, ⟨0x1c86, 0x1c86, 0x1, 0x42a⟩,
    ⟨0x1c87, 0x1c87, 0x1, 0x462⟩, ⟨0x1c88, 0x1c88, 0x1, 0xa64a⟩, ⟨0x1d79, 0x1d79, 0x1, 0xa77d⟩,
    ⟨0x1d7d, 0x1d7d, 0x1, 0x2c63⟩, ⟨0x1d8e, 0x1d8e, 0x1, 0xa7c6⟩, ⟨0x1e01, 0x1e95, 0x2, 0x1e00⟩,
    ⟨0x1e9b, 0x1e9b, 0x1, 0x1e60⟩, ⟨0x1ea1, 0x1eff, 0x2, 0x1ea0⟩, ⟨0x1f00, 0x1f07, 0x1, 0x1f08⟩,
    ⟨0x1f10, 0x1f15, 0x1, 0x1f18⟩, ⟨0x1f20, 0x1f27, 0x1, 0x1f28⟩, ⟨0x1f30, 0x1f37, 0x1, 0x1f38⟩,
    ⟨0x1f40, 0x1f45, 0x1, 0x1f48⟩, ⟨0x1f51, 0x1f57, 0x2, 0x1f59⟩, ⟨0x1f60, 0x1f67, 0x1, 0x1f68⟩,
    ⟨0x1f70, 0x1f71, 0x1, 0x1fba⟩, ⟨0x1f72, 0x1f75, 0x1, 0x1fc8⟩, ⟨0x1f76, 0x1f77, 0x1, 0x1fda⟩,
    ⟨0x1f78, 0x1f79, 0x1, 0x1ff8⟩, ⟨0x1f7a, 0x1f7b, 0x1, 0x1fea⟩, ⟨0x1f7c, 0x1f7d, 0x1, 0x1ffa⟩,
    ⟨0x1f80, 0x1f87, 0x1, 0x1f88⟩, ⟨0x1f90, 0x1f97, 0x1, 0x1f98⟩, ⟨0x1fa0, 0x1fa7, 0x1, 0x1fa8⟩,
    ⟨0x1fb0, 0x1fb1, 0x1, 0x1fb8⟩, ⟨0x1fb3, 0x1fb3, 0x1, 0x1fbc⟩, ⟨0x1fbe, 0x1fbe, 0x1, 0x399⟩,
    ⟨0x1fc3, 0x1fc3, 0x1, 0x1fcc⟩, ⟨0x1fd0, 0x1fd1, 0x1, 0x1fd8⟩, ⟨0x1fe0, 0x1fe1, 0x1, 0x1fe8⟩,
    ⟨0x1fe5, 0x1fe5, 0x1, 0x1fec⟩, ⟨0x1ff3, 0x1ff3, 0x1, 0x1ffc⟩, ⟨0x214e, 0x214e, 0x1, 0x2132⟩,
    ⟨0x2170, 0x217f, 0x1, 0x2160⟩, ⟨0x2184, 0x2184, 0x1, 0x2183⟩, ⟨0x24d0, 0x24e9, 0x1, 0x24b6⟩,
    ⟨0x2c30, 0x2c5f, 0x1, 0x2c00⟩, ⟨0x2c61, 0x2c61, 0x1, 0x2c60⟩, ⟨0x2c65, 0x2c65, 0x1, 0x23a⟩,
    ⟨0x2c66, 0x2c66, 0x1, 0x23e⟩, ⟨0x2c68, 0x2c6c, 0x2, 0x2c67⟩, ⟨0x2c73, 0x2c73, 0x1, 0x2c72⟩,
    ⟨0x2c76, 0x2c76, 0x1, 0x2c75⟩, ⟨0x2c81, 0x2ce3, 0x2, 0x2c80⟩, ⟨0x2cec, 0x2cee, 0x2, 0x2ceb⟩,
    ⟨0x2cf3, 0x2cf3, 0x1, 0x2cf2⟩, ⟨0x2d00, 0x2d25, 0x1, 0x10a0⟩, ⟨0x2d27, 0x2d27, 0x1, 0x10c7⟩,
    ⟨0x2d2d, 0x2d2d, 0x1, 0x10cd⟩, ⟨0xa641, 0xa66d, 0x2, 0xa640⟩, ⟨0xa681, 0xa69b, 0x2, 0xa680⟩,
    ⟨0xa723, 0xa72f, 0x2, 0xa722⟩, ⟨0xa733, 0xa76f, 0x2, 0xa732⟩, ⟨0xa77a, 0xa77c, 0x2, 0xa779⟩,
    ⟨0xa77f, 0xa787, 0x2, 0xa77e⟩, ⟨0xa78c, 0xa78c, 0x1, 0xa78b⟩, ⟨0xa791, 0xa793, 0x2, 0xa790⟩,
    ⟨0xa794, 0xa794, 0x1, 0xa7c4⟩, ⟨0xa797, 0xa7a9, 0x2, 0xa796⟩, ⟨0xa7b5, 0xa7c3, 0x2, 0xa7b4⟩,
    ⟨0xa7c8, 0xa7ca, 0x2, 0xa7c7⟩, ⟨0xa7d1, 0xa7d1, 0x1, 0xa7d0⟩, ⟨0xa7d7, 0xa7d9, 0x2, 0xa7d6⟩,
    ⟨0xa7f6, 0xa7f6, 0x1, 0xa7f5⟩, ⟨0xab53, 0xab53, 0x1, 0xa7b3⟩, ⟨0xab70, 0xabbf, 0x1, 0x13a0⟩,
    ⟨0xff41, 0xff5a, 0x1, 0xff21⟩, ⟨0x10428, 0x1044f, 0x1, 0x10400⟩,
    ⟨0x104d8, 0x104fb, 0x1, 0x104b0⟩, ⟨0x10597, 0x105a1, 0x1, 0x10570⟩,
    ⟨0x105a3, 0x105b1, 0x1, 0x1057c⟩, ⟨0x105b3, 0x105b9, 0x1, 0x1058c⟩,
    ⟨0x105bb, 0x105bc, 0x1, 0x10594⟩, ⟨0x10cc0, 0x10cf2, 0x1, 0x10c80⟩,
    ⟨0x118c0, 0x118df, 0x1, 0x118a0⟩, ⟨0x16e60, 0x16e7f, 0x1, 0x16e40⟩,
    ⟨0x1e922, 0x1e943, 0x1, 0x1e900⟩]

/-- The upper-case partner of a character, or the character itself. -/
def toUpper (c : Char) : Char := Char.ofNat (partnerCode upperRuns c.toNat)

/-- The lower-case partner of a character, or the character itself. -/
def toLower (c : Char) : Char := if c = 'İ' then 'i' else Char.ofNat (partnerCode lowerRuns c.toNat)

end BatchFormat.Text
