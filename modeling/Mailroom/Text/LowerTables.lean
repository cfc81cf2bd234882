import Mailroom.Text.Ranges
/-!
  Mailroom.Text.LowerTables
  ────────────────────────────────
  **THE TABLES BEHIND LOWER-CASING.**

  `lowerRuns` lists the letters above ASCII that have a single lower-case
  letter, as runs of equal distance.  `cased` and `caseIgnorable` are the two
  classes that decide the form of a capital sigma.
-/
namespace Mailroom.Text

/-- A run of letters `first, first + step, … last` whose lower-case letters
lie `up` above and `down` below them. -/
structure LowerRun where
  first : Nat
  last : Nat
  step : Nat
  up : Nat
  down : Nat

/-- The runs of letters above ASCII with a single lower-case letter. -/
def lowerRuns : Array LowerRun := #[
  ⟨0xC0, 0xD6, 1, 0x20, 0⟩, ⟨0xD8, 0xDE, 1, 0x20, 0⟩, ⟨0x100, 0x12E, 2, 0x1, 0⟩,
  ⟨0x132, 0x136, 2, 0x1, 0⟩, ⟨0x139, 0x147, 2, 0x1, 0⟩, ⟨0x14A, 0x176, 2, 0x1, 0⟩,
  ⟨0x178, 0x178, 1, 0, 0x79⟩, ⟨0x179, 0x17D, 2, 0x1, 0⟩, ⟨0x181, 0x181, 1, 0xD2, 0⟩,
  ⟨0x182, 0x184, 2, 0x1, 0⟩, ⟨0x186, 0x186, 1, 0xCE, 0⟩, ⟨0x187, 0x187, 1, 0x1, 0⟩,
  ⟨0x189, 0x18A, 1, 0xCD, 0⟩, ⟨0x18B, 0x18B, 1, 0x1, 0⟩, ⟨0x18E, 0x18E, 1, 0x4F, 0⟩,
  ⟨0x18F, 0x18F, 1, 0xCA, 0⟩, ⟨0x190, 0x190, 1, 0xCB, 0⟩, ⟨0x191, 0x191, 1, 0x1, 0⟩,
  ⟨0x193, 0x193, 1, 0xCD, 0⟩, ⟨0x194, 0x194, 1, 0xCF, 0⟩, ⟨0x196, 0x196, 1, 0xD3, 0⟩,
  ⟨0x197, 0x197, 1, 0xD1, 0⟩, ⟨0x198, 0x198, 1, 0x1, 0⟩, ⟨0x19C, 0x19C, 1, 0xD3, 0⟩,
  ⟨0x19D, 0x19D, 1, 0xD5, 0⟩, ⟨0x19F, 0x19F, 1, 0xD6, 0⟩, ⟨0x1A0, 0x1A4, 2, 0x1, 0⟩,
  ⟨0x1A6, 0x1A6, 1, 0xDA, 0⟩, ⟨0x1A7, 0x1A7, 1, 0x1, 0⟩, ⟨0x1A9, 0x1A9, 1, 0xDA, 0⟩,
  ⟨0x1AC, 0x1AC, 1, 0x1, 0⟩, ⟨0x1AE, 0x1AE, 1, 0xDA, 0⟩, ⟨0x1AF, 0x1AF, 1, 0x1, 0⟩,
  ⟨0x1B1, 0x1B2, 1, 0xD9, 0⟩, ⟨0x1B3, 0x1B5, 2, 0x1, 0⟩, ⟨0x1B7, 0x1B7, 1, 0xDB, 0⟩,
  ⟨0x1B8, 0x1B8, 1, 0x1, 0⟩, ⟨0x1BC, 0x1BC, 1, 0x1, 0⟩, ⟨0x1C4, 0x1C4, 1, 0x2, 0⟩,
  ⟨0x1C5, 0x1C5, 1, 0x1, 0⟩, ⟨0x1C7, 0x1C7, 1, 0x2, 0⟩, ⟨0x1C8, 0x1C8, 1, 0x1, 0⟩,
  ⟨0x1CA, 0x1CA, 1, 0x2, 0⟩, ⟨0x1CB, 0x1DB, 2, 0x1, 0⟩, ⟨0x1DE, 0x1EE, 2, 0x1, 0⟩,
  ⟨0x1F1, 0x1F1, 1, 0x2, 0⟩, ⟨0x1F2, 0x1F4, 2, 0x1, 0⟩, ⟨0x1F6, 0x1F6, 1, 0, 0x61⟩,
  ⟨0x1F7, 0x1F7, 1, 0, 0x38⟩, ⟨0x1F8, 0x21E, 2, 0x1, 0⟩, ⟨0x220, 0x220, 1, 0, 0x82⟩,
  ⟨0x222, 0x232, 2, 0x1, 0⟩, ⟨0x23A, 0x23A, 1, 0x2A2B, 0⟩, ⟨0x23B, 0x23B, 1, 0x1, 0⟩,
  ⟨0x23D, 0x23D, 1, 0, 0xA3⟩, ⟨0x23E, 0x23E, 1, 0x2A28, 0⟩, ⟨0x241, 0x241, 1, 0x1, 0⟩,
  ⟨0x243, 0x243, 1, 0, 0xC3⟩, ⟨0x244, 0x244, 1, 0x45, 0⟩, ⟨0x245, 0x245, 1, 0x47, 0⟩,
  ⟨0x246, 0x24E, 2, 0x1, 0⟩, ⟨0x370, 0x372, 2, 0x1, 0⟩, ⟨0x376, 0x376, 1, 0x1, 0⟩,
  ⟨0x37F, 0x37F, 1, 0x74, 0⟩, ⟨0x386, 0x386, 1, 0x26, 0⟩, ⟨0x388, 0x38A, 1, 0x25, 0⟩,
  ⟨0x38C, 0x38C, 1, 0x40, 0⟩, ⟨0x38E, 0x38F, 1, 0x3F, 0⟩, ⟨0x391, 0x3A1, 1, 0x20, 0⟩,
  ⟨0x3A4, 0x3AB, 1, 0x20, 0⟩, ⟨0x3CF, 0x3CF, 1, 0x8, 0⟩, ⟨0x3D8, 0x3EE, 2, 0x1, 0⟩,
  ⟨0x3F4, 0x3F4, 1, 0, 0x3C⟩, ⟨0x3F7, 0x3F7, 1, 0x1, 0⟩, ⟨0x3F9, 0x3F9, 1, 0, 0x7⟩,
  ⟨0x3FA, 0x3FA, 1, 0x1, 0⟩, ⟨0x3FD, 0x3FF, 1, 0, 0x82⟩, ⟨0x400, 0x40F, 1, 0x50, 0⟩,
  ⟨0x410, 0x42F, 1, 0x20, 0⟩, ⟨0x460, 0x480, 2, 0x1, 0⟩, ⟨0x48A, 0x4BE, 2, 0x1, 0⟩,
  ⟨0x4C0, 0x4C0, 1, 0xF, 0⟩, ⟨0x4C1, 0x4CD, 2, 0x1, 0⟩, ⟨0x4D0, 0x52E, 2, 0x1, 0⟩,
  ⟨0x531, 0x556, 1, 0x30, 0⟩, ⟨0x10A0, 0x10C5, 1, 0x1C60, 0⟩, ⟨0x10C7, 0x10C7, 1, 0x1C60, 0⟩,
  ⟨0x10CD, 0x10CD, 1, 0x1C60, 0⟩, ⟨0x13A0, 0x13EF, 1, 0x97D0, 0⟩, ⟨0x13F0, 0x13F5, 1, 0x8, 0⟩,
  ⟨0x1C90, 0x1CBA, 1, 0, 0xBC0⟩, ⟨0x1CBD, 0x1CBF, 1, 0, 0xBC0⟩, ⟨0x1E00, 0x1E94, 2, 0x1, 0⟩,
  ⟨0x1E9E, 0x1E9E, 1, 0, 0x1DBF⟩, ⟨0x1EA0, 0x1EFE, 2, 0x1, 0⟩, ⟨0x1F08, 0x1F0F, 1, 0, 0x8⟩,
  ⟨0x1F18, 0x1F1D, 1, 0, 0x8⟩, ⟨0x1F28, 0x1F2F, 1, 0, 0x8⟩, ⟨0x1F38, 0x1F3F, 1, 0, 0x8⟩,
  ⟨0x1F48, 0x1F4D, 1, 0, 0x8⟩, ⟨0x1F59, 0x1F5F, 2, 0, 0x8⟩, ⟨0x1F68, 0x1F6F, 1, 0, 0x8⟩,
  ⟨0x1F88, 0x1F8F, 1, 0, 0x8⟩, ⟨0x1F98, 0x1F9F, 1, 0, 0x8⟩, ⟨0x1FA8, 0x1FAF, 1, 0, 0x8⟩,
  ⟨0x1FB8, 0x1FB9, 1, 0, 0x8⟩, ⟨0x1FBA, 0x1FBB, 1, 0, 0x4A⟩, ⟨0x1FBC, 0x1FBC, 1, 0, 0x9⟩,
  ⟨0x1FC8, 0x1FCB, 1, 0, 0x56⟩, ⟨0x1FCC, 0x1FCC, 1, 0, 0x9⟩, ⟨0x1FD8, 0x1FD9, 1, 0, 0x8⟩,
  ⟨0x1FDA, 0x1FDB, 1, 0, 0x64⟩, ⟨0x1FE8, 0x1FE9, 1, 0, 0x8⟩, ⟨0x1FEA, 0x1FEB, 1, 0, 0x70⟩,
  ⟨0x1FEC, 0x1FEC, 1, 0, 0x7⟩, ⟨0x1FF8, 0x1FF9, 1, 0, 0x80⟩, ⟨0x1FFA, 0x1FFB, 1, 0, 0x7E⟩,
  ⟨0x1FFC, 0x1FFC, 1, 0, 0x9⟩, ⟨0x2126, 0x2126, 1, 0, 0x1D5D⟩, ⟨0x212A, 0x212A, 1, 0, 0x20BF⟩,
  ⟨0x212B, 0x212B, 1, 0, 0x2046⟩, ⟨0x2132, 0x2132, 1, 0x1C, 0⟩, ⟨0x2160, 0x216F, 1, 0x10, 0⟩,
  ⟨0x2183, 0x2183, 1, 0x1, 0⟩, ⟨0x24B6, 0x24CF, 1, 0x1A, 0⟩, ⟨0x2C00, 0x2C2F, 1, 0x30, 0⟩,
  ⟨0x2C60, 0x2C60, 1, 0x1, 0⟩, ⟨0x2C62, 0x2C62, 1, 0, 0x29F7⟩, ⟨0x2C63, 0x2C63, 1, 0, 0xEE6⟩,
  ⟨0x2C64, 0x2C64, 1, 0, 0x29E7⟩, ⟨0x2C67, 0x2C6B, 2, 0x1, 0⟩, ⟨0x2C6D, 0x2C6D, 1, 0, 0x2A1C⟩,
  ⟨0x2C6E, 0x2C6E, 1, 0, 0x29FD⟩, ⟨0x2C6F, 0x2C6F, 1, 0, 0x2A1F⟩, ⟨0x2C70, 0x2C70, 1, 0, 0x2A1E⟩,
  ⟨0x2C72, 0x2C72, 1, 0x1, 0⟩, ⟨0x2C75, 0x2C75, 1, 0x1, 0⟩, ⟨0x2C7E, 0x2C7F, 1, 0, 0x2A3F⟩,
  ⟨0x2C80, 0x2CE2, 2, 0x1, 0⟩, ⟨0x2CEB, 0x2CED, 2, 0x1, 0⟩, ⟨0x2CF2, 0x2CF2, 1, 0x1, 0⟩,
  ⟨0xA640, 0xA66C, 2, 0x1, 0⟩, ⟨0xA680, 0xA69A, 2, 0x1, 0⟩, ⟨0xA722, 0xA72E, 2, 0x1, 0⟩,
  ⟨0xA732, 0xA76E, 2, 0x1, 0⟩, ⟨0xA779, 0xA77B, 2, 0x1, 0⟩, ⟨0xA77D, 0xA77D, 1, 0, 0x8A04⟩,
  ⟨0xA77E, 0xA786, 2, 0x1, 0⟩, ⟨0xA78B, 0xA78B, 1, 0x1, 0⟩, ⟨0xA78D, 0xA78D, 1, 0, 0xA528⟩,
  ⟨0xA790, 0xA792, 2, 0x1, 0⟩, ⟨0xA796, 0xA7A8, 2, 0x1, 0⟩, ⟨0xA7AA, 0xA7AA, 1, 0, 0xA544⟩,
  ⟨0xA7AB, 0xA7AB, 1, 0, 0xA54F⟩, ⟨0xA7AC, 0xA7AC, 1, 0, 0xA54B⟩, ⟨0xA7AD, 0xA7AD, 1, 0, 0xA541⟩,
  ⟨0xA7AE, 0xA7AE, 1, 0, 0xA544⟩, ⟨0xA7B0, 0xA7B0, 1, 0, 0xA512⟩, ⟨0xA7B1, 0xA7B1, 1, 0, 0xA52A⟩,
  ⟨0xA7B2, 0xA7B2, 1, 0, 0xA515⟩, ⟨0xA7B3, 0xA7B3, 1, 0x3A0, 0⟩, ⟨0xA7B4, 0xA7C2, 2, 0x1, 0⟩,
  ⟨0xA7C4, 0xA7C4, 1, 0, 0x30⟩, ⟨0xA7C5, 0xA7C5, 1, 0, 0xA543⟩, ⟨0xA7C6, 0xA7C6, 1, 0, 0x8A38⟩,
  ⟨0xA7C7, 0xA7C9, 2, 0x1, 0⟩, ⟨0xA7D0, 0xA7D0, 1, 0x1, 0⟩, ⟨0xA7D6, 0xA7D8, 2, 0x1, 0⟩,
  ⟨0xA7F5, 0xA7F5, 1, 0x1, 0⟩, ⟨0xFF21, 0xFF3A, 1, 0x20, 0⟩, ⟨0x10400, 0x10427, 1, 0x28, 0⟩,
  ⟨0x104B0, 0x104D3, 1, 0x28, 0⟩, ⟨0x10570, 0x1057A, 1, 0x27, 0⟩, ⟨0x1057C, 0x1058A, 1, 0x27, 0⟩,
  ⟨0x1058C, 0x10592, 1, 0x27, 0⟩, ⟨0x10594, 0x10595, 1, 0x27, 0⟩, ⟨0x10C80, 0x10CB2, 1, 0x40, 0⟩,
  ⟨0x118A0, 0x118BF, 1, 0x20, 0⟩, ⟨0x16E40, 0x16E5F, 1, 0x20, 0⟩, ⟨0x1E900, 0x1E921, 1, 0x22, 0⟩]

/-- Cased characters above ASCII that are not case-ignorable. -/
def cased : Ranges := Ranges.ofLines
  ["aa b5 ba c0-d6 d8-f6 f8-1ba 1bc-1bf 1c4-293 295-2af 370-373 376-377 37b-37d 37f 386 388-38a",
   "38c 38e-3a1 3a3-3f5 3f7-481 48a-52f 531-556 560-588 10a0-10c5 10c7 10cd 10d0-10fa 10fd-10ff",
   "13a0-13f5 13f8-13fd 1c80-1c88 1c90-1cba 1cbd-1cbf 1d00-1d2b 1d6b-1d77 1d79-1d9a 1e00-1f15",
   "1f18-1f1d 1f20-1f45 1f48-1f4d 1f50-1f57 1f59 1f5b 1f5d 1f5f-1f7d 1f80-1fb4 1fb6-1fbc 1fbe",
   "1fc2-1fc4 1fc6-1fcc 1fd0-1fd3 1fd6-1fdb 1fe0-1fec 1ff2-1ff4 1ff6-1ffc 2102 2107 210a-2113",
   "2115 2119-211d 2124 2126 2128 212a-212d 212f-2134 2139 213c-213f 2145-2149 214e 2160-217f",
   "2183-2184 24b6-24e9 2c00-2c7b 2c7e-2ce4 2ceb-2cee 2cf2-2cf3 2d00-2d25 2d27 2d2d a640-a66d",
   "a680-a69b a722-a76f a771-a787 a78b-a78e a790-a7ca a7d0-a7d1 a7d3 a7d5-a7d9 a7f5-a7f6 a7fa",
   "ab30-ab5a ab60-ab68 ab70-abbf fb00-fb06 fb13-fb17 ff21-ff3a ff41-ff5a 10400-1044f",
   "104b0-104d3 104d8-104fb 10570-1057a 1057c-1058a 1058c-10592 10594-10595 10597-105a1",
   "105a3-105b1 105b3-105b9 105bb-105bc 10c80-10cb2 10cc0-10cf2 118a0-118df 16e40-16e7f",
   "1d400-1d454 1d456-1d49c 1d49e-1d49f 1d4a2 1d4a5-1d4a6 1d4a9-1d4ac 1d4ae-1d4b9 1d4bb",
   "1d4bd-1d4c3 1d4c5-1d505 1d507-1d50a 1d50d-1d514 1d516-1d51c 1d51e-1d539 1d53b-1d53e",
   "1d540-1d544 1d546 1d54a-1d550 1d552-1d6a5 1d6a8-1d6c0 1d6c2-1d6da 1d6dc-1d6fa 1d6fc-1d714",
   "1d716-1d734 1d736-1d74e 1d750-1d76e 1d770-1d788 1d78a-1d7a8 1d7aa-1d7c2 1d7c4-1d7cb",
   "1df00-1df09 1df0b-1df1e 1df25-1df2a 1e900-1e943 1f130-1f149 1f150-1f169 1f170-1f189"]

/-- Case-ignorable characters above ASCII. -/
def caseIgnorable : Ranges := Ranges.ofLines
  ["a8 ad af b4 b7-b8 2b0-36f 374-375 37a 384-385 387 483-489 559 55f 591-5bd 5bf 5c1-5c2",
   "5c4-5c5 5c7 5f4 600-605 610-61a 61c 640 64b-65f 670 6d6-6dd 6df-6e8 6ea-6ed 70f 711 730-74a",
   "7a6-7b0 7eb-7f5 7fa 7fd 816-82d 859-85b 888 890-891 898-89f 8c9-902 93a 93c 941-948 94d",
   "951-957 962-963 971 981 9bc 9c1-9c4 9cd 9e2-9e3 9fe a01-a02 a3c a41-a42 a47-a48 a4b-a4d a51",
   "a70-a71 a75 a81-a82 abc ac1-ac5 ac7-ac8 acd ae2-ae3 afa-aff b01 b3c b3f b41-b44 b4d b55-b56",
   "b62-b63 b82 bc0 bcd c00 c04 c3c c3e-c40 c46-c48 c4a-c4d c55-c56 c62-c63 c81 cbc cbf cc6",
   "ccc-ccd ce2-ce3 d00-d01 d3b-d3c d41-d44 d4d d62-d63 d81 dca dd2-dd4 dd6 e31 e34-e3a e46-e4e",
   "eb1 eb4-ebc ec6 ec8-ece f18-f19 f35 f37 f39 f71-f7e f80-f84 f86-f87 f8d-f97 f99-fbc fc6",
   "102d-1030 1032-1037 1039-103a 103d-103e 1058-1059 105e-1060 1071-1074 1082 1085-1086 108d",
   "109d 10fc 135d-135f 1712-1714 1732-1733 1752-1753 1772-1773 17b4-17b5 17b7-17bd 17c6",
   "17c9-17d3 17d7 17dd 180b-180f 1843 1885-1886 18a9 1920-1922 1927-1928 1932 1939-193b",
   "1a17-1a18 1a1b 1a56 1a58-1a5e 1a60 1a62 1a65-1a6c 1a73-1a7c 1a7f 1aa7 1ab0-1ace 1b00-1b03",
   "1b34 1b36-1b3a 1b3c 1b42 1b6b-1b73 1b80-1b81 1ba2-1ba5 1ba8-1ba9 1bab-1bad 1be6 1be8-1be9",
   "1bed 1bef-1bf1 1c2c-1c33 1c36-1c37 1c78-1c7d 1cd0-1cd2 1cd4-1ce0 1ce2-1ce8 1ced 1cf4",
   "1cf8-1cf9 1d2c-1d6a 1d78 1d9b-1dff 1fbd 1fbf-1fc1 1fcd-1fcf 1fdd-1fdf 1fed-1fef 1ffd-1ffe",
   "200b-200f 2018-2019 2024 2027 202a-202e 2060-2064 2066-206f 2071 207f 2090-209c 20d0-20f0",
   "2c7c-2c7d 2cef-2cf1 2d6f 2d7f 2de0-2dff 2e2f 3005 302a-302d 3031-3035 303b 3099-309e",
   "30fc-30fe a015 a4f8-a4fd a60c a66f-a672 a674-a67d a67f a69c-a69f a6f0-a6f1 a700-a721 a770",
   "a788-a78a a7f2-a7f4 a7f8-a7f9 a802 a806 a80b a825-a826 a82c a8c4-a8c5 a8e0-a8f1 a8ff",
   "a926-a92d a947-a951 a980-a982 a9b3 a9b6-a9b9 a9bc-a9bd a9cf a9e5-a9e6 aa29-aa2e aa31-aa32",
   "aa35-aa36 aa43 aa4c aa70 aa7c aab0 aab2-aab4 aab7-aab8 aabe-aabf aac1 aadd aaec-aaed",
   "aaf3-aaf4 aaf6 ab5b-ab5f ab69-ab6b abe5 abe8 abed fb1e fbb2-fbc2 fe00-fe0f fe13 fe20-fe2f",
   "fe52 fe55 feff ff07 ff0e ff1a ff3e ff40 ff70 ff9e-ff9f ffe3 fff9-fffb 101fd 102e0",
   "10376-1037a 10780-10785 10787-107b0 107b2-107ba 10a01-10a03 10a05-10a06 10a0c-10a0f",
   "10a38-10a3a 10a3f 10ae5-10ae6 10d24-10d27 10eab-10eac 10efd-10eff 10f46-10f50 10f82-10f85",
   "11001 11038-11046 11070 11073-11074 1107f-11081 110b3-110b6 110b9-110ba 110bd 110c2 110cd",
   "11100-11102 11127-1112b 1112d-11134 11173 11180-11181 111b6-111be 111c9-111cc 111cf",
   "1122f-11231 11234 11236-11237 1123e 11241 112df 112e3-112ea 11300-11301 1133b-1133c 11340",
   "11366-1136c 11370-11374 11438-1143f 11442-11444 11446 1145e 114b3-114b8 114ba 114bf-114c0",
   "114c2-114c3 115b2-115b5 115bc-115bd 115bf-115c0 115dc-115dd 11633-1163a 1163d 1163f-11640",
   "116ab 116ad 116b0-116b5 116b7 1171d-1171f 11722-11725 11727-1172b 1182f-11837 11839-1183a",
   "1193b-1193c 1193e 11943 119d4-119d7 119da-119db 119e0 11a01-11a0a 11a33-11a38 11a3b-11a3e",
   "11a47 11a51-11a56 11a59-11a5b 11a8a-11a96 11a98-11a99 11c30-11c36 11c38-11c3d 11c3f",
   "11c92-11ca7 11caa-11cb0 11cb2-11cb3 11cb5-11cb6 11d31-11d36 11d3a 11d3c-11d3d 11d3f-11d45",
   "11d47 11d90-11d91 11d95 11d97 11ef3-11ef4 11f00-11f01 11f36-11f3a 11f40 11f42 13430-13440",
   "13447-13455 16af0-16af4 16b30-16b36 16b40-16b43 16f4f 16f8f-16f9f 16fe0-16fe1 16fe3-16fe4",
   "1aff0-1aff3 1aff5-1affb 1affd-1affe 1bc9d-1bc9e 1bca0-1bca3 1cf00-1cf2d 1cf30-1cf46",
   "1d167-1d169 1d173-1d182 1d185-1d18b 1d1aa-1d1ad 1d242-1d244 1da00-1da36 1da3b-1da6c 1da75",
   "1da84 1da9b-1da9f 1daa1-1daaf 1e000-1e006 1e008-1e018 1e01b-1e021 1e023-1e024 1e026-1e02a",
   "1e030-1e06d 1e08f 1e130-1e13d 1e2ae 1e2ec-1e2ef 1e4eb-1e4ef 1e8d0-1e8d6 1e944-1e94b",
   "1f3fb-1f3ff e0001 e0020-e007f e0100-e01ef"]

end Mailroom.Text
