/-! Characters that stand for an ASCII character in another dress: wide, raised, circled, in a
mathematical hand, or the full stop of another script. -/

namespace StreamBridge.Text

/-- Runs of such characters: the first and the last, the ASCII character that the first stands for
in lower case, and the distance between the ASCII characters of neighbours. -/
def likenessRuns : Array (Nat × Nat × Nat × Nat) :=
  #[(0xa0, 0xa0, 0x20, 1), (0xaa, 0xaa, 0x61, 1), (0xb2, 0xb3, 0x32, 1), (0xb9, 0xb9, 0x31, 1),
    (0xba, 0xba, 0x6f, 1), (0x17f, 0x17f, 0x73, 1), (0x2b0, 0x2b0, 0x68, 1),
    (0x2b2, 0x2b2, 0x6a, 1), (0x2b3, 0x2b3, 0x72, 1), (0x2b7, 0x2b7, 0x77, 1),
    (0x2b8, 0x2b8, 0x79, 1), (0x2e1, 0x2e1, 0x6c, 1), (0x2e2, 0x2e2, 0x73, 1),
    (0x2e3, 0x2e3, 0x78, 1), (0x37e, 0x37e, 0x3b, 1), (0x1d2c, 0x1d2c, 0x61, 1),
    (0x1d2e, 0x1d2e, 0x62, 1), (0x1d30, 0x1d31, 0x64, 1), (0x1d33, 0x1d3a, 0x67, 1),
    (0x1d3c, 0x1d3c, 0x6f, 1), (0x1d3e, 0x1d3e, 0x70, 1), (0x1d3f, 0x1d3f, 0x72, 1),
    (0x1d40, 0x1d41, 0x74, 1), (0x1d42, 0x1d42, 0x77, 1), (0x1d43, 0x1d43, 0x61, 1),
    (0x1d47, 0x1d47, 0x62, 1), (0x1d48, 0x1d49, 0x64, 1), (0x1d4d, 0x1d4d, 0x67, 1),
    (0x1d4f, 0x1d4f, 0x6b, 1), (0x1d50, 0x1d50, 0x6d, 1), (0x1d52, 0x1d52, 0x6f, 1),
    (0x1d56, 0x1d56, 0x70, 1), (0x1d57, 0x1d58, 0x74, 1), (0x1d5b, 0x1d5b, 0x76, 1),
    (0x1d62, 0x1d62, 0x69, 1), (0x1d63, 0x1d63, 0x72, 1), (0x1d64, 0x1d65, 0x75, 1),
    (0x1d9c, 0x1d9c, 0x63, 1), (0x1da0, 0x1da0, 0x66, 1), (0x1dbb, 0x1dbb, 0x7a, 1),
    (0x1fef, 0x1fef, 0x60, 1), (0x2000, 0x200a, 0x20, 0), (0x2024, 0x2024, 0x2e, 1),
    (0x202f, 0x202f, 0x20, 1), (0x205f, 0x205f, 0x20, 1), (0x2070, 0x2070, 0x30, 1),
    (0x2071, 0x2071, 0x69, 1), (0x2074, 0x2079, 0x34, 1), (0x207a, 0x207a, 0x2b, 1),
    (0x207c, 0x207c, 0x3d, 1), (0x207d, 0x207e, 0x28, 1), (0x207f, 0x207f, 0x6e, 1),
    (0x2080, 0x2089, 0x30, 1), (0x208a, 0x208a, 0x2b, 1), (0x208c, 0x208c, 0x3d, 1),
    (0x208d, 0x208e, 0x28, 1), (0x2090, 0x2090, 0x61, 1), (0x2091, 0x2091, 0x65, 1),
    (0x2092, 0x2092, 0x6f, 1), (0x2093, 0x2093, 0x78, 1), (0x2095, 0x2095, 0x68, 1),
    (0x2096, 0x2099, 0x6b, 1), (0x209a, 0x209a, 0x70, 1), (0x209b, 0x209c, 0x73, 1),
    (0x2102, 0x2102, 0x63, 1), (0x210a, 0x210b, 0x67, 1), (0x210c, 0x210e, 0x68, 0),
    (0x2110, 0x2111, 0x69, 0), (0x2112, 0x2113, 0x6c, 0), (0x2115, 0x2115, 0x6e, 1),
    (0x2119, 0x211b, 0x70, 1), (0x211c, 0x211d, 0x72, 0), (0x2124, 0x2124, 0x7a, 1),
    (0x2128, 0x2128, 0x7a, 1), (0x212a, 0x212a, 0x6b, 1), (0x212c, 0x212d, 0x62, 1),
    (0x212f, 0x2130, 0x65, 0), (0x2131, 0x2131, 0x66, 1), (0x2133, 0x2133, 0x6d, 1),
    (0x2134, 0x2134, 0x6f, 1), (0x2139, 0x2139, 0x69, 1), (0x2145, 0x2146, 0x64, 0),
    (0x2147, 0x2147, 0x65, 1), (0x2148, 0x2149, 0x69, 1), (0x2160, 0x2160, 0x69, 1),
    (0x2164, 0x2164, 0x76, 1), (0x2169, 0x2169, 0x78, 1), (0x216c, 0x216c, 0x6c, 1),
    (0x216d, 0x216e, 0x63, 1), (0x216f, 0x216f, 0x6d, 1), (0x2170, 0x2170, 0x69, 1),
    (0x2174, 0x2174, 0x76, 1), (0x2179, 0x2179, 0x78, 1), (0x217c, 0x217c, 0x6c, 1),
    (0x217d, 0x217e, 0x63, 1), (0x217f, 0x217f, 0x6d, 1), (0x2460, 0x2468, 0x31, 1),
    (0x24b6, 0x24cf, 0x61, 1), (0x24d0, 0x24e9, 0x61, 1), (0x24ea, 0x24ea, 0x30, 1),
    (0x2c7c, 0x2c7c, 0x6a, 1), (0x2c7d, 0x2c7d, 0x76, 1), (0x3000, 0x3000, 0x20, 1),
    (0x3002, 0x3002, 0x2e, 1), (0xa7f2, 0xa7f2, 0x63, 1), (0xa7f3, 0xa7f3, 0x66, 1),
    (0xa7f4, 0xa7f4, 0x71, 1), (0xfb29, 0xfb29, 0x2b, 1), (0xfe10, 0xfe10, 0x2c, 1),
    (0xfe13, 0xfe14, 0x3a, 1), (0xfe15, 0xfe15, 0x21, 1), (0xfe16, 0xfe16, 0x3f, 1),
    (0xfe33, 0xfe34, 0x5f, 0), (0xfe35, 0xfe36, 0x28, 1), (0xfe37, 0xfe37, 0x7b, 1),
    (0xfe38, 0xfe38, 0x7d, 1), (0xfe47, 0xfe47, 0x5b, 1), (0xfe48, 0xfe48, 0x5d, 1),
    (0xfe4d, 0xfe4f, 0x5f, 0), (0xfe50, 0xfe50, 0x2c, 1), (0xfe52, 0xfe52, 0x2e, 1),
    (0xfe54, 0xfe54, 0x3b, 1), (0xfe55, 0xfe55, 0x3a, 1), (0xfe56, 0xfe56, 0x3f, 1),
    (0xfe57, 0xfe57, 0x21, 1), (0xfe59, 0xfe5a, 0x28, 1), (0xfe5b, 0xfe5b, 0x7b, 1),
    (0xfe5c, 0xfe5c, 0x7d, 1), (0xfe5f, 0xfe5f, 0x23, 1), (0xfe60, 0xfe60, 0x26, 1),
    (0xfe61, 0xfe62, 0x2a, 1), (0xfe63, 0xfe63, 0x2d, 1), (0xfe64, 0xfe64, 0x3c, 1),
    (0xfe65, 0xfe65, 0x3e, 1), (0xfe66, 0xfe66, 0x3d, 1), (0xfe68, 0xfe68, 0x5c, 1),
    (0xfe69, 0xfe6a, 0x24, 1), (0xfe6b, 0xfe6b, 0x40, 1), (0xff01, 0xff20, 0x21, 1),
    (0xff21, 0xff3a, 0x61, 1), (0xff3b, 0xff5e, 0x5b, 1), (0xff61, 0xff61, 0x2e, 1),
    (0x107a5, 0x107a5, 0x71, 1), (0x1ccd6, 0x1ccef, 0x61, 1), (0x1ccf0, 0x1ccf9, 0x30, 1),
    (0x1d400, 0x1d419, 0x61, 1), (0x1d41a, 0x1d433, 0x61, 1), (0x1d434, 0x1d44d, 0x61, 1),
    (0x1d44e, 0x1d454, 0x61, 1), (0x1d456, 0x1d467, 0x69, 1), (0x1d468, 0x1d481, 0x61, 1),
    (0x1d482, 0x1d49b, 0x61, 1), (0x1d49c, 0x1d49c, 0x61, 1), (0x1d49e, 0x1d49f, 0x63, 1),
    (0x1d4a2, 0x1d4a2, 0x67, 1), (0x1d4a5, 0x1d4a6, 0x6a, 1), (0x1d4a9, 0x1d4ac, 0x6e, 1),
    (0x1d4ae, 0x1d4b5, 0x73, 1), (0x1d4b6, 0x1d4b9, 0x61, 1), (0x1d4bb, 0x1d4bb, 0x66, 1),
    (0x1d4bd, 0x1d4c3, 0x68, 1), (0x1d4c5, 0x1d4cf, 0x70, 1), (0x1d4d0, 0x1d4e9, 0x61, 1),
    (0x1d4ea, 0x1d503, 0x61, 1), (0x1d504, 0x1d505, 0x61, 1), (0x1d507, 0x1d50a, 0x64, 1),
    (0x1d50d, 0x1d514, 0x6a, 1), (0x1d516, 0x1d51c, 0x73, 1), (0x1d51e, 0x1d537, 0x61, 1),
    (0x1d538, 0x1d539, 0x61, 1), (0x1d53b, 0x1d53e, 0x64, 1), (0x1d540, 0x1d544, 0x69, 1),
    (0x1d546, 0x1d546, 0x6f, 1), (0x1d54a, 0x1d550, 0x73, 1), (0x1d552, 0x1d56b, 0x61, 1),
    (0x1d56c, 0x1d585, 0x61, 1), (0x1d586, 0x1d59f, 0x61, 1), (0x1d5a0, 0x1d5b9, 0x61, 1),
    (0x1d5ba, 0x1d5d3, 0x61, 1), (0x1d5d4, 0x1d5ed, 0x61, 1), (0x1d5ee, 0x1d607, 0x61, 1),
    (0x1d608, 0x1d621, 0x61, 1), (0x1d622, 0x1d63b, 0x61, 1), (0x1d63c, 0x1d655, 0x61, 1),
    (0x1d656, 0x1d66f, 0x61, 1), (0x1d670, 0x1d689, 0x61, 1), (0x1d68a, 0x1d6a3, 0x61, 1),
    (0x1d7ce, 0x1d7d7, 0x30, 1), (0x1d7d8, 0x1d7e1, 0x30, 1), (0x1d7e2, 0x1d7eb, 0x30, 1),
    (0x1d7ec, 0x1d7f5, 0x30, 1), (0x1d7f6, 0x1d7ff, 0x30, 1), (0x1f12b, 0x1f12b, 0x63, 1),
    (0x1f12c, 0x1f12c, 0x72, 1), (0x1f130, 0x1f149, 0x61, 1), (0x1fbf0, 0x1fbf9, 0x30, 1)]

/-- The ASCII character that a character stands for. -/
def likeness? (letter : Char) : Option Char :=
  let code := letter.toNat
  (likenessRuns.find? fun (first, last, _) => first ≤ code && code ≤ last).map
    fun (first, _, start, step) => Char.ofNat (start + (code - first) * step)

end StreamBridge.Text
