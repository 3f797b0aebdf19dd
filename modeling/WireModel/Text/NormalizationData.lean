/-!
The data of the normal form of names: what characters are by decomposition, the classes in whose
order marks stand, and the pairs of characters that are composed.
-/

namespace WireModel.Text.NormalizationData

/-- From a code point on, what the characters of identifiers are by decomposition. An empty place
stands for a character that stays as it is. -/
def decompositions : List (Nat × String) := [
  (0xaa, "a"), (0xb5, "μ"), (0xba, "o"),
  (0xc0, "A\u0300 A\u0301 A\u0302 A\u0303 A\u0308 A\u030a  C\u0327 E\u0300 E\u0301 E\u0302"),
  (0xcb, "E\u0308 I\u0300 I\u0301 I\u0302 I\u0308  N\u0303 O\u0300 O\u0301 O\u0302 O\u0303"),
  (0xd6, "O\u0308   U\u0300 U\u0301 U\u0302 U\u0308 Y\u0301   a\u0300 a\u0301 a\u0302"),
  (0xe3, "a\u0303 a\u0308 a\u030a  c\u0327"),
  (0xe8, "e\u0300 e\u0301 e\u0302 e\u0308 i\u0300 i\u0301 i\u0302 i\u0308  n\u0303 o\u0300"),
  (0xf3, "o\u0301 o\u0302 o\u0303 o\u0308   u\u0300 u\u0301 u\u0302 u\u0308 y\u0301"),
  (0xff, "y\u0308 A\u0304 a\u0304 A\u0306 a\u0306 A\u0328 a\u0328 C\u0301 c\u0301 C\u0302"),
  (0x109, "c\u0302 C\u0307 c\u0307 C\u030c c\u030c D\u030c d\u030c"),
  (0x112, "E\u0304 e\u0304 E\u0306 e\u0306 E\u0307 e\u0307 E\u0328 e\u0328 E\u030c e\u030c"),
  (0x11c, "G\u0302 g\u0302 G\u0306 g\u0306 G\u0307 g\u0307 G\u0327 g\u0327 H\u0302 h\u0302"),
  (0x128, "I\u0303 i\u0303 I\u0304 i\u0304 I\u0306 i\u0306 I\u0328 i\u0328 I\u0307  IJ ij"),
  (0x134, "J\u0302 j\u0302 K\u0327 k\u0327  L\u0301"),
  (0x13a, "l\u0301 L\u0327 l\u0327 L\u030c l\u030c L· l·   N\u0301 n\u0301 N\u0327 n\u0327"),
  (0x147, "N\u030c n\u030c ʼn   O\u0304 o\u0304 O\u0306 o\u0306 O\u030b o\u030b   R\u0301"),
  (0x155, "r\u0301 R\u0327 r\u0327 R\u030c r\u030c S\u0301 s\u0301 S\u0302 s\u0302 S\u0327"),
  (0x15f, "s\u0327 S\u030c s\u030c"),
  (0x162, "T\u0327 t\u0327 T\u030c t\u030c   U\u0303 u\u0303 U\u0304 u\u0304 U\u0306"),
  (0x16d, "u\u0306 U\u030a u\u030a U\u030b u\u030b U\u0328 u\u0328 W\u0302 w\u0302 Y\u0302"),
  (0x177, "y\u0302 Y\u0308 Z\u0301 z\u0301 Z\u0307 z\u0307 Z\u030c z\u030c s"),
  (0x1a0, "O\u031b o\u031b"), (0x1af, "U\u031b u\u031b"),
  (0x1c4, "DZ\u030c Dz\u030c dz\u030c LJ Lj lj NJ Nj nj A\u030c a\u030c I\u030c i\u030c"),
  (0x1d1, "O\u030c o\u030c U\u030c u\u030c U\u0308\u0304 u\u0308\u0304 U\u0308\u0301"),
  (0x1d8, "u\u0308\u0301 U\u0308\u030c u\u0308\u030c U\u0308\u0300 u\u0308\u0300"),
  (0x1de, "A\u0308\u0304 a\u0308\u0304 A\u0307\u0304 a\u0307\u0304 Æ\u0304 æ\u0304"),
  (0x1e6, "G\u030c g\u030c K\u030c k\u030c O\u0328 o\u0328"),
  (0x1ec, "O\u0328\u0304 o\u0328\u0304 Ʒ\u030c ʒ\u030c j\u030c DZ Dz dz G\u0301 g\u0301"),
  (0x1f8, "N\u0300 n\u0300 A\u030a\u0301 a\u030a\u0301 Æ\u0301 æ\u0301 Ø\u0301 ø\u0301"),
  (0x200, "A\u030f a\u030f A\u0311 a\u0311 E\u030f e\u030f E\u0311 e\u0311 I\u030f i\u030f"),
  (0x20a, "I\u0311 i\u0311 O\u030f o\u030f O\u0311 o\u0311 R\u030f r\u030f R\u0311 r\u0311"),
  (0x214, "U\u030f u\u030f U\u0311 u\u0311 S\u0326 s\u0326 T\u0326 t\u0326   H\u030c"),
  (0x21f, "h\u030c"),
  (0x226, "A\u0307 a\u0307 E\u0327 e\u0327 O\u0308\u0304 o\u0308\u0304 O\u0303\u0304"),
  (0x22d, "o\u0303\u0304 O\u0307 o\u0307 O\u0307\u0304 o\u0307\u0304 Y\u0304 y\u0304"),
  (0x2b0, "h ɦ j r ɹ ɻ ʁ w y"), (0x2e0, "ɣ l s x ʕ"),
  (0x340, "\u0300 \u0301  \u0313 \u0308\u0301"), (0x374, "ʹ"),
  (0x386, "Α\u0301 · Ε\u0301 Η\u0301 Ι\u0301  Ο\u0301  Υ\u0301 Ω\u0301 ι\u0308\u0301"),
  (0x3aa, "Ι\u0308 Υ\u0308 α\u0301 ε\u0301 η\u0301 ι\u0301 υ\u0308\u0301"),
  (0x3ca, "ι\u0308 υ\u0308 ο\u0301 υ\u0301 ω\u0301  β θ Υ Υ\u0301 Υ\u0308 φ π"),
  (0x3f0, "κ ρ ς  Θ ε    Σ"), (0x400, "Е\u0300 Е\u0308  Г\u0301    І\u0308"),
  (0x40c, "К\u0301 И\u0300 У\u0306"), (0x419, "И\u0306"), (0x439, "и\u0306"),
  (0x450, "е\u0300 е\u0308  г\u0301    і\u0308"), (0x45c, "к\u0301 и\u0300 у\u0306"),
  (0x476, "Ѵ\u030f ѵ\u030f"), (0x4c1, "Ж\u0306 ж\u0306"),
  (0x4d0, "А\u0306 а\u0306 А\u0308 а\u0308   Е\u0306 е\u0306   Ә\u0308 ә\u0308 Ж\u0308"),
  (0x4dd, "ж\u0308 З\u0308 з\u0308   И\u0304 и\u0304 И\u0308 и\u0308 О\u0308 о\u0308"),
  (0x4ea, "Ө\u0308 ө\u0308 Э\u0308 э\u0308 У\u0304 у\u0304 У\u0308 у\u0308 У\u030b у\u030b"),
  (0x4f4, "Ч\u0308 ч\u0308"), (0x4f8, "Ы\u0308 ы\u0308"), (0x587, "եւ"),
  (0x622, "ا\u0653 ا\u0654 و\u0654 ا\u0655 ي\u0654"), (0x675, "اٴ وٴ ۇٴ يٴ"),
  (0x6c0, "ە\u0654  ہ\u0654"), (0x6d3, "ے\u0654"), (0x929, "न\u093c"),
  (0x931, "र\u093c   ळ\u093c"),
  (0x958, "क\u093c ख\u093c ग\u093c ज\u093c ड\u093c ढ\u093c फ\u093c य\u093c"),
  (0x9cb, "\u09c7\u09be \u09c7\u09d7"), (0x9dc, "ড\u09bc ঢ\u09bc  য\u09bc"),
  (0xa33, "ਲ\u0a3c   ਸ\u0a3c"), (0xa59, "ਖ\u0a3c ਗ\u0a3c ਜ\u0a3c   ਫ\u0a3c"),
  (0xb48, "\u0b47\u0b56   \u0b47\u0b3e \u0b47\u0b57"), (0xb5c, "ଡ\u0b3c ଢ\u0b3c"),
  (0xb94, "ஒ\u0bd7"), (0xbca, "\u0bc6\u0bbe \u0bc7\u0bbe \u0bc6\u0bd7"), (0xc48, "\u0c46\u0c56"),
  (0xcc0, "\u0cbf\u0cd5"), (0xcc7, "\u0cc6\u0cd5 \u0cc6\u0cd6  \u0cc6\u0cc2 \u0cc6\u0cc2\u0cd5"),
  (0xd4a, "\u0d46\u0d3e \u0d47\u0d3e \u0d46\u0d57"),
  (0xdda, "\u0dd9\u0dca  \u0dd9\u0dcf \u0dd9\u0dcf\u0dca \u0dd9\u0ddf"), (0xe33, "\u0e4dา"),
  (0xeb3, "\u0ecdາ"), (0xedc, "ຫນ ຫມ"), (0xf43, "ག\u0fb7"), (0xf4d, "ཌ\u0fb7"), (0xf52, "ད\u0fb7"),
  (0xf57, "བ\u0fb7"), (0xf5c, "ཛ\u0fb7"), (0xf69, "ཀ\u0fb5"),
  (0xf73, "\u0f71\u0f72  \u0f71\u0f74 \u0fb2\u0f80 \u0fb2\u0f71\u0f80 \u0fb3\u0f80"),
  (0xf79, "\u0fb3\u0f71\u0f80"), (0xf81, "\u0f71\u0f80"), (0xf93, "\u0f92\u0fb7"),
  (0xf9d, "\u0f9c\u0fb7"), (0xfa2, "\u0fa1\u0fb7"), (0xfa7, "\u0fa6\u0fb7"),
  (0xfac, "\u0fab\u0fb7"), (0xfb9, "\u0f90\u0fb5"), (0x1026, "ဥ\u102e"), (0x10fc, "ნ"),
  (0x1b06, "ᬅ\u1b35  ᬇ\u1b35  ᬉ\u1b35  ᬋ\u1b35  ᬍ\u1b35    ᬑ\u1b35"),
  (0x1b3b, "\u1b3a\u1b35  \u1b3c\u1b35   \u1b3e\u1b35 \u1b3f\u1b35  \u1b42\u1b35"),
  (0x1d2c, "A Æ B  D E Ǝ G H I J K L M N  O Ȣ P R T U W a ɐ ɑ ᴂ b d e ə ɛ ɜ g  k m ŋ o ɔ"),
  (0x1d54, "ᴖ ᴗ p t u ᴝ ɯ v ᴥ β γ δ φ χ i r u v β γ ρ φ χ"), (0x1d78, "н"),
  (0x1d9b, "ɒ c ɕ ð ɜ f ɟ ɡ ɥ ɨ ɩ ɪ ᵻ ʝ ɭ ᶅ ʟ ɱ ɰ ɲ ɳ ɴ ɵ ɸ ʂ ʃ ƫ ʉ ʊ ᴜ ʋ ʌ z ʐ ʑ ʒ θ"),
  (0x1e00, "A\u0325 a\u0325 B\u0307 b\u0307 B\u0323 b\u0323 B\u0331 b\u0331 C\u0327\u0301"),
  (0x1e09, "c\u0327\u0301 D\u0307 d\u0307 D\u0323 d\u0323 D\u0331 d\u0331 D\u0327 d\u0327"),
  (0x1e12, "D\u032d d\u032d E\u0304\u0300 e\u0304\u0300 E\u0304\u0301 e\u0304\u0301 E\u032d"),
  (0x1e19, "e\u032d E\u0330 e\u0330 E\u0327\u0306 e\u0327\u0306 F\u0307 f\u0307 G\u0304"),
  (0x1e21, "g\u0304 H\u0307 h\u0307 H\u0323 h\u0323 H\u0308 h\u0308"),
  (0x1e28, "H\u0327 h\u0327 H\u032e h\u032e I\u0330 i\u0330 I\u0308\u0301 i\u0308\u0301"),
  (0x1e30, "K\u0301 k\u0301 K\u0323 k\u0323 K\u0331 k\u0331 L\u0323 l\u0323 L\u0323\u0304"),
  (0x1e39, "l\u0323\u0304 L\u0331 l\u0331 L\u032d l\u032d M\u0301 m\u0301 M\u0307 m\u0307"),
  (0x1e42, "M\u0323 m\u0323 N\u0307 n\u0307 N\u0323 n\u0323 N\u0331 n\u0331 N\u032d n\u032d"),
  (0x1e4c, "O\u0303\u0301 o\u0303\u0301 O\u0303\u0308 o\u0303\u0308"),
  (0x1e50, "O\u0304\u0300 o\u0304\u0300 O\u0304\u0301 o\u0304\u0301 P\u0301 p\u0301 P\u0307"),
  (0x1e57, "p\u0307 R\u0307 r\u0307 R\u0323 r\u0323 R\u0323\u0304 r\u0323\u0304 R\u0331"),
  (0x1e5f, "r\u0331 S\u0307 s\u0307 S\u0323 s\u0323 S\u0301\u0307 s\u0301\u0307"),
  (0x1e66, "S\u030c\u0307 s\u030c\u0307 S\u0323\u0307 s\u0323\u0307 T\u0307 t\u0307 T\u0323"),
  (0x1e6d, "t\u0323 T\u0331 t\u0331 T\u032d t\u032d U\u0324 u\u0324 U\u0330 u\u0330 U\u032d"),
  (0x1e77, "u\u032d"),
  (0x1e78, "U\u0303\u0301 u\u0303\u0301 U\u0304\u0308 u\u0304\u0308 V\u0303 v\u0303 V\u0323"),
  (0x1e7f, "v\u0323 W\u0300 w\u0300 W\u0301 w\u0301 W\u0308 w\u0308 W\u0307 w\u0307 W\u0323"),
  (0x1e89, "w\u0323 X\u0307 x\u0307 X\u0308 x\u0308 Y\u0307 y\u0307 Z\u0302 z\u0302 Z\u0323"),
  (0x1e93, "z\u0323 Z\u0331 z\u0331 h\u0331 t\u0308 w\u030a y\u030a aʾ s\u0307"),
  (0x1ea0, "A\u0323 a\u0323 A\u0309 a\u0309 A\u0302\u0301 a\u0302\u0301 A\u0302\u0300"),
  (0x1ea7, "a\u0302\u0300 A\u0302\u0309 a\u0302\u0309 A\u0302\u0303 a\u0302\u0303"),
  (0x1eac, "A\u0323\u0302 a\u0323\u0302 A\u0306\u0301 a\u0306\u0301 A\u0306\u0300"),
  (0x1eb1, "a\u0306\u0300 A\u0306\u0309 a\u0306\u0309 A\u0306\u0303 a\u0306\u0303"),
  (0x1eb6, "A\u0323\u0306 a\u0323\u0306 E\u0323 e\u0323 E\u0309 e\u0309 E\u0303 e\u0303"),
  (0x1ebe, "E\u0302\u0301 e\u0302\u0301 E\u0302\u0300 e\u0302\u0300 E\u0302\u0309"),
  (0x1ec3, "e\u0302\u0309 E\u0302\u0303 e\u0302\u0303 E\u0323\u0302 e\u0323\u0302"),
  (0x1ec8, "I\u0309 i\u0309 I\u0323 i\u0323 O\u0323 o\u0323 O\u0309 o\u0309 O\u0302\u0301"),
  (0x1ed1, "o\u0302\u0301 O\u0302\u0300 o\u0302\u0300 O\u0302\u0309 o\u0302\u0309"),
  (0x1ed6, "O\u0302\u0303 o\u0302\u0303 O\u0323\u0302 o\u0323\u0302 O\u031b\u0301"),
  (0x1edb, "o\u031b\u0301 O\u031b\u0300 o\u031b\u0300 O\u031b\u0309 o\u031b\u0309"),
  (0x1ee0, "O\u031b\u0303 o\u031b\u0303 O\u031b\u0323 o\u031b\u0323 U\u0323 u\u0323 U\u0309"),
  (0x1ee7, "u\u0309 U\u031b\u0301 u\u031b\u0301 U\u031b\u0300 u\u031b\u0300 U\u031b\u0309"),
  (0x1eed, "u\u031b\u0309 U\u031b\u0303 u\u031b\u0303"),
  (0x1ef0, "U\u031b\u0323 u\u031b\u0323 Y\u0300 y\u0300 Y\u0323 y\u0323 Y\u0309 y\u0309"),
  (0x1ef8, "Y\u0303 y\u0303"),
  (0x1f00, "α\u0313 α\u0314 α\u0313\u0300 α\u0314\u0300 α\u0313\u0301 α\u0314\u0301"),
  (0x1f06, "α\u0313\u0342 α\u0314\u0342 Α\u0313 Α\u0314 Α\u0313\u0300 Α\u0314\u0300"),
  (0x1f0c, "Α\u0313\u0301 Α\u0314\u0301 Α\u0313\u0342 Α\u0314\u0342 ε\u0313 ε\u0314"),
  (0x1f12, "ε\u0313\u0300 ε\u0314\u0300 ε\u0313\u0301 ε\u0314\u0301   Ε\u0313 Ε\u0314"),
  (0x1f1a, "Ε\u0313\u0300 Ε\u0314\u0300 Ε\u0313\u0301 Ε\u0314\u0301   η\u0313 η\u0314"),
  (0x1f22, "η\u0313\u0300 η\u0314\u0300 η\u0313\u0301 η\u0314\u0301 η\u0313\u0342"),
  (0x1f27, "η\u0314\u0342"),
  (0x1f28, "Η\u0313 Η\u0314 Η\u0313\u0300 Η\u0314\u0300 Η\u0313\u0301 Η\u0314\u0301"),
  (0x1f2e, "Η\u0313\u0342 Η\u0314\u0342 ι\u0313 ι\u0314 ι\u0313\u0300 ι\u0314\u0300"),
  (0x1f34, "ι\u0313\u0301 ι\u0314\u0301 ι\u0313\u0342 ι\u0314\u0342 Ι\u0313 Ι\u0314"),
  (0x1f3a, "Ι\u0313\u0300 Ι\u0314\u0300 Ι\u0313\u0301 Ι\u0314\u0301 Ι\u0313\u0342"),
  (0x1f3f, "Ι\u0314\u0342 ο\u0313 ο\u0314 ο\u0313\u0300 ο\u0314\u0300 ο\u0313\u0301"),
  (0x1f45, "ο\u0314\u0301   Ο\u0313 Ο\u0314 Ο\u0313\u0300 Ο\u0314\u0300 Ο\u0313\u0301"),
  (0x1f4d, "Ο\u0314\u0301"),
  (0x1f50, "υ\u0313 υ\u0314 υ\u0313\u0300 υ\u0314\u0300 υ\u0313\u0301 υ\u0314\u0301"),
  (0x1f56, "υ\u0313\u0342 υ\u0314\u0342  Υ\u0314  Υ\u0314\u0300  Υ\u0314\u0301"),
  (0x1f5f, "Υ\u0314\u0342 ω\u0313 ω\u0314 ω\u0313\u0300 ω\u0314\u0300 ω\u0313\u0301"),
  (0x1f65, "ω\u0314\u0301 ω\u0313\u0342 ω\u0314\u0342 Ω\u0313 Ω\u0314 Ω\u0313\u0300"),
  (0x1f6b, "Ω\u0314\u0300 Ω\u0313\u0301 Ω\u0314\u0301 Ω\u0313\u0342 Ω\u0314\u0342 α\u0300"),
  (0x1f71, "α\u0301 ε\u0300 ε\u0301 η\u0300 η\u0301 ι\u0300 ι\u0301"),
  (0x1f78, "ο\u0300 ο\u0301 υ\u0300 υ\u0301 ω\u0300 ω\u0301   α\u0313\u0345 α\u0314\u0345"),
  (0x1f82, "α\u0313\u0300\u0345 α\u0314\u0300\u0345 α\u0313\u0301\u0345 α\u0314\u0301\u0345"),
  (0x1f86, "α\u0313\u0342\u0345 α\u0314\u0342\u0345 Α\u0313\u0345 Α\u0314\u0345"),
  (0x1f8a, "Α\u0313\u0300\u0345 Α\u0314\u0300\u0345 Α\u0313\u0301\u0345 Α\u0314\u0301\u0345"),
  (0x1f8e, "Α\u0313\u0342\u0345 Α\u0314\u0342\u0345 η\u0313\u0345 η\u0314\u0345"),
  (0x1f92, "η\u0313\u0300\u0345 η\u0314\u0300\u0345 η\u0313\u0301\u0345 η\u0314\u0301\u0345"),
  (0x1f96, "η\u0313\u0342\u0345 η\u0314\u0342\u0345 Η\u0313\u0345 Η\u0314\u0345"),
  (0x1f9a, "Η\u0313\u0300\u0345 Η\u0314\u0300\u0345 Η\u0313\u0301\u0345 Η\u0314\u0301\u0345"),
  (0x1f9e, "Η\u0313\u0342\u0345 Η\u0314\u0342\u0345"),
  (0x1fa0, "ω\u0313\u0345 ω\u0314\u0345 ω\u0313\u0300\u0345 ω\u0314\u0300\u0345"),
  (0x1fa4, "ω\u0313\u0301\u0345 ω\u0314\u0301\u0345 ω\u0313\u0342\u0345 ω\u0314\u0342\u0345"),
  (0x1fa8, "Ω\u0313\u0345 Ω\u0314\u0345 Ω\u0313\u0300\u0345 Ω\u0314\u0300\u0345"),
  (0x1fac, "Ω\u0313\u0301\u0345 Ω\u0314\u0301\u0345 Ω\u0313\u0342\u0345 Ω\u0314\u0342\u0345"),
  (0x1fb0, "α\u0306 α\u0304 α\u0300\u0345 α\u0345 α\u0301\u0345  α\u0342 α\u0342\u0345"),
  (0x1fb8, "Α\u0306 Α\u0304 Α\u0300 Α\u0301 Α\u0345  ι    η\u0300\u0345 η\u0345"),
  (0x1fc4, "η\u0301\u0345  η\u0342 η\u0342\u0345"),
  (0x1fc8, "Ε\u0300 Ε\u0301 Η\u0300 Η\u0301 Η\u0345    ι\u0306 ι\u0304 ι\u0308\u0300"),
  (0x1fd3, "ι\u0308\u0301   ι\u0342 ι\u0308\u0342 Ι\u0306 Ι\u0304 Ι\u0300 Ι\u0301"),
  (0x1fe0, "υ\u0306 υ\u0304 υ\u0308\u0300 υ\u0308\u0301 ρ\u0313 ρ\u0314 υ\u0342"),
  (0x1fe7, "υ\u0308\u0342 Υ\u0306 Υ\u0304 Υ\u0300 Υ\u0301 Ρ\u0314"),
  (0x1ff2, "ω\u0300\u0345 ω\u0345 ω\u0301\u0345  ω\u0342 ω\u0342\u0345 Ο\u0300 Ο\u0301"),
  (0x1ffa, "Ω\u0300 Ω\u0301 Ω\u0345"), (0x2071, "i"), (0x207f, "n"),
  (0x2090, "a e o x ə h k l m n p s t"), (0x2102, "C"),
  (0x2107, "Ɛ   g H H H h ħ I I L l  N    P Q R R R"),
  (0x2124, "Z  Ω  Z  K A\u030a B C  e E F  M o א ב ג ד i   π γ Γ Π"), (0x2145, "D d e i j"),
  (0x2160, "I II III IV V VI VII VIII IX X XI XII L C D M i ii iii iv v vi vii viii ix x xi"),
  (0x217b, "xii l c d m"), (0x2c7c, "j V"), (0x2d6f, "ⵡ"), (0x3038, "十 卄 卅"),
  (0x304c, "か\u3099  き\u3099  く\u3099  け\u3099  こ\u3099  さ\u3099  し\u3099  す\u3099  せ\u3099"),
  (0x305e, "そ\u3099  た\u3099  ち\u3099   つ\u3099  て\u3099  と\u3099"),
  (0x3070, "は\u3099 は\u309a  ひ\u3099 ひ\u309a  ふ\u3099 ふ\u309a  へ\u3099 へ\u309a  ほ\u3099"),
  (0x307d, "ほ\u309a"), (0x3094, "う\u3099"), (0x309e, "ゝ\u3099 より"),
  (0x30ac, "カ\u3099  キ\u3099  ク\u3099  ケ\u3099  コ\u3099  サ\u3099  シ\u3099  ス\u3099  セ\u3099"),
  (0x30be, "ソ\u3099  タ\u3099  チ\u3099   ツ\u3099  テ\u3099  ト\u3099"),
  (0x30d0, "ハ\u3099 ハ\u309a  ヒ\u3099 ヒ\u309a  フ\u3099 フ\u309a  ヘ\u3099 ヘ\u309a  ホ\u3099"),
  (0x30dd, "ホ\u309a"), (0x30f4, "ウ\u3099   ワ\u3099 ヰ\u3099 ヱ\u3099 ヲ\u3099    ヽ\u3099 コト"),
  (0x3131, "ᄀ ᄁ ᆪ ᄂ ᆬ ᆭ ᄃ ᄄ ᄅ ᆰ ᆱ ᆲ ᆳ ᆴ ᆵ ᄚ ᄆ ᄇ ᄈ ᄡ ᄉ ᄊ ᄋ ᄌ ᄍ ᄎ ᄏ ᄐ ᄑ ᄒ ᅡ ᅢ ᅣ ᅤ ᅥ ᅦ ᅧ ᅨ ᅩ ᅪ"),
  (0x3159, "ᅫ ᅬ ᅭ ᅮ ᅯ ᅰ ᅱ ᅲ ᅳ ᅴ ᅵ ᅠ ᄔ ᄕ ᇇ ᇈ ᇌ ᇎ ᇓ ᇗ ᇙ ᄜ ᇝ ᇟ ᄝ ᄞ ᄠ ᄢ ᄣ ᄧ ᄩ ᄫ ᄬ ᄭ ᄮ ᄯ ᄲ ᄶ ᅀ ᅇ"),
  (0x3181, "ᅌ ᇱ ᇲ ᅗ ᅘ ᅙ ᆄ ᆅ ᆈ ᆑ ᆒ ᆔ ᆞ ᆡ"), (0xa69c, "ъ ь"), (0xa770, "ꝯ"),
  (0xa7f2, "C F Q    Ħ œ"), (0xab5c, "ꜧ ꬷ ɫ ꭒ"), (0xab69, "ʍ"),
  (0xf900, "豈 更 車 賈 滑 串 句 龜 龜 契 金 喇 奈 懶 癩 羅 蘿 螺 裸 邏 樂 洛 烙 珞 落 酪 駱 亂 卵 欄 爛 蘭 鸞 嵐 濫 藍 襤 拉 臘 蠟"),
  (0xf928, "廊 朗 浪 狼 郎 來 冷 勞 擄 櫓 爐 盧 老 蘆 虜 路 露 魯 鷺 碌 祿 綠 菉 錄 鹿 論 壟 弄 籠 聾 牢 磊 賂 雷 壘 屢 樓 淚 漏 累"),
  (0xf950, "縷 陋 勒 肋 凜 凌 稜 綾 菱 陵 讀 拏 樂 諾 丹 寧 怒 率 異 北 磻 便 復 不 泌 數 索 參 塞 省 葉 說 殺 辰 沈 拾 若 掠 略 亮"),
  (0xf978, "兩 凉 梁 糧 良 諒 量 勵 呂 女 廬 旅 濾 礪 閭 驪 麗 黎 力 曆 歷 轢 年 憐 戀 撚 漣 煉 璉 秊 練 聯 輦 蓮 連 鍊 列 劣 咽 烈"),
  (0xf9a0, "裂 說 廉 念 捻 殮 簾 獵 令 囹 寧 嶺 怜 玲 瑩 羚 聆 鈴 零 靈 領 例 禮 醴 隸 惡 了 僚 寮 尿 料 樂 燎 療 蓼 遼 龍 暈 阮 劉"),
  (0xf9c8, "杻 柳 流 溜 琉 留 硫 紐 類 六 戮 陸 倫 崙 淪 輪 律 慄 栗 率 隆 利 吏 履 易 李 梨 泥 理 痢 罹 裏 裡 里 離 匿 溺 吝 燐 璘"),
  (0xf9f0, "藺 隣 鱗 麟 林 淋 臨 立 笠 粒 狀 炙 識 什 茶 刺 切 度 拓 糖 宅 洞 暴 輻 行 降 見 廓 兀 嗀   塚  晴   凞 猪 益"),
  (0xfa18, "礼 神 祥 福 靖 精 羽  蘒  諸   逸 都    飯 飼 館 鶴 郞 隷 侮 僧 免 勉 勤 卑 喝 嘆 器 塀 墨 層 屮 悔 慨 憎"),
  (0xfa40, "懲 敏 既 暑 梅 海 渚 漢 煮 爫 琢 碑 社 祉 祈 祐 祖 祝 禍 禎 穀 突 節 練 縉 繁 署 者 臭 艹 艹 著 褐 視 謁 謹 賓 贈 辶 逸"),
  (0xfa68, "難 響 頻 恵 𤋮 舘   並 况 全 侀 充 冀 勇 勺 喝 啕 喙 嗢 塚 墳 奄 奔 婢 嬨 廒 廙 彩 徭 惘 慎 愈 憎 慠 懲 戴 揄 搜 摒"),
  (0xfa90, "敖 晴 朗 望 杖 歹 殺 流 滛 滋 漢 瀞 煮 瞧 爵 犯 猪 瑱 甆 画 瘝 瘟 益 盛 直 睊 着 磌 窱 節 类 絛 練 缾 者 荒 華 蝹 襁 覆"),
  (0xfab8, "視 調 諸 請 謁 諾 諭 謹 變 贈 輸 遲 醙 鉶 陼 難 靖 韛 響 頋 頻 鬒 龜 𢡊 𢡄 𣏕 㮝 䀘 䀹 𥉉 𥳐 𧻓 齃 龎"),
  (0xfb00, "ff fi fl ffi ffl st st"), (0xfb13, "մն մե մի վն մխ"),
  (0xfb1d, "י\u05b4  ײ\u05b7 ע א ד ה כ ל ם ר ת  ש\u05c1 ש\u05c2 ש\u05bc\u05c1 ש\u05bc\u05c2"),
  (0xfb2e, "א\u05b7 א\u05b8 א\u05bc ב\u05bc ג\u05bc ד\u05bc ה\u05bc ו\u05bc ז\u05bc  ט\u05bc"),
  (0xfb39, "י\u05bc ך\u05bc כ\u05bc ל\u05bc  מ\u05bc  נ\u05bc ס\u05bc  ף\u05bc פ\u05bc"),
  (0xfb46, "צ\u05bc ק\u05bc ר\u05bc ש\u05bc ת\u05bc ו\u05b9 ב\u05bf כ\u05bf פ\u05bf אל ٱ ٱ ٻ"),
  (0xfb53, "ٻ ٻ ٻ پ پ پ پ ڀ ڀ ڀ ڀ ٺ ٺ ٺ ٺ ٿ ٿ ٿ ٿ ٹ ٹ ٹ ٹ ڤ ڤ ڤ ڤ"),
  (0xfb6e, "ڦ ڦ ڦ ڦ ڄ ڄ ڄ ڄ ڃ ڃ ڃ ڃ چ چ چ چ ڇ ڇ ڇ ڇ ڍ ڍ ڌ ڌ ڎ ڎ ڈ ڈ ژ ژ ڑ ڑ ک ک ک ک گ گ گ گ"),
  (0xfb96, "ڳ ڳ ڳ ڳ ڱ ڱ ڱ ڱ ں ں ڻ ڻ ڻ ڻ ە\u0654 ە\u0654 ہ ہ ہ ہ ھ ھ ھ ھ ے ے ے\u0654 ے\u0654"),
  (0xfbd3, "ڭ ڭ ڭ ڭ ۇ ۇ ۆ ۆ ۈ ۈ ۇٴ ۋ ۋ ۅ ۅ ۉ ۉ ې ې ې ې ى ى ي\u0654ا ي\u0654ا ي\u0654ە"),
  (0xfbed, "ي\u0654ە ي\u0654و ي\u0654و ي\u0654ۇ ي\u0654ۇ ي\u0654ۆ ي\u0654ۆ ي\u0654ۈ ي\u0654ۈ"),
  (0xfbf6, "ي\u0654ې ي\u0654ې ي\u0654ې ي\u0654ى ي\u0654ى"),
  (0xfbfb, "ي\u0654ى ی ی ی ی ي\u0654ج ي\u0654ح ي\u0654م ي\u0654ى ي\u0654ي بج بح بخ بم بى بي"),
  (0xfc0b, "تج تح تخ تم تى تي ثج ثم ثى ثي جح جم حج حم خج خح خم سج سح سخ سم صح صم ضج"),
  (0xfc23, "ضح ضخ ضم طح طم ظم عج عم غج غم فج فح فخ فم فى في قح قم قى قي كا كج كح كخ كل كم كى"),
  (0xfc3e, "كي لج لح لخ لم لى لي مج مح مخ مم مى مي"),
  (0xfc4b, "نج نح نخ نم نى ني هج هم هى هي يج يح يخ يم يى يي ذ\u0670 ر\u0670 ى\u0670"),
  (0xfc64, "ي\u0654ر ي\u0654ز ي\u0654م ي\u0654ن ي\u0654ى ي\u0654ي بر بز بم بن بى بي تر تز تم"),
  (0xfc73, "تن تى تي ثر ثز ثم ثن ثى ثي فى في قى قي كا كل كم كى كي لم لى لي ما مم نر نز"),
  (0xfc8c, "نم نن نى ني ى\u0670 ير يز يم ين يى يي ي\u0654ج ي\u0654ح ي\u0654خ ي\u0654م"),
  (0xfc9b, "ي\u0654ه بج بح بخ بم به تج تح تخ تم ته ثم جح جم حج حم خج خم سج سح سخ سم صح صخ صم"),
  (0xfcb4, "ضج ضح ضخ ضم طح ظم عج عم غج غم فج فح فخ فم قح قم كج كح كخ كل كم لج لح لخ لم له مج"),
  (0xfccf, "مح مخ مم نج نح نخ نم نه هج هم ه\u0670 يج يح"),
  (0xfcdc, "يخ يم يه ي\u0654م ي\u0654ه بم به تم ته ثم ثه سم سه شم شه كل كم لم نم نه يم يه"),
  (0xfcf2, "ـ\u064e\u0651 ـ\u064f\u0651 ـ\u0650\u0651 طى طي عى عي غى غي سى سي شى شي حى حي جى"),
  (0xfd02, "جي خى"),
  (0xfd04, "خي صى صي ضى ضي شج شح شخ شم شر سر صر ضر طى طي عى عي غى غي سى سي شى شي حى حي جى جي"),
  (0xfd1f, "خى خي صى صي ضى ضي شج شح شخ شم شر سر صر"),
  (0xfd2c, "ضر شج شح شخ شم سه شه طم سج سح سخ شج شح شخ طم ظم ا\u064b ا\u064b"),
  (0xfd50, "تجم تحج تحج تحم تخم تمج تمح تمخ جمح جمح حمي حمى سحج سجح سجى سمح سمح سمج سمم سمم"),
  (0xfd64, "صحح صحح صمم شحم شحم شجي شمخ شمخ شمم شمم ضحى ضخم ضخم طمح طمح طمم طمي عجم عمم عمم"),
  (0xfd78, "عمى غمم غمي غمى فخم فخم قمح قمم لحم لحي لحى لجج لجج لخم لخم لمح لمح محج محم محي"),
  (0xfd8c, "مجح مجم مخج مخم   مجخ همج همم نحم نحى نجم نجم نجى نمي نمى يمم يمم بخي تجي"),
  (0xfda0, "تجى تخي تخى تمي تمى جمي جحى جمى سخى صحي شحي ضحي لجي لمي يحي يجي يمي ممي قمي نحي"),
  (0xfdb4, "قمح لحم عمي كمي نجح مخي لجم كمم لجم نجح جحي حجي مجي فمي بحي كمم عجم صمم سخي نجي"),
  (0xfdf0, "صلے قلے الله اكبر محمد صلعم رسول عليه وسلم صلى"), (0xfe33, "_ _"), (0xfe4d, "_ _ _"),
  (0xfe71, "ـ\u064b"),
  (0xfe77, "ـ\u064e  ـ\u064f  ـ\u0650  ـ\u0651  ـ\u0652 ء ا\u0653 ا\u0653 ا\u0654 ا\u0654"),
  (0xfe85, "و\u0654 و\u0654 ا\u0655 ا\u0655 ي\u0654 ي\u0654 ي\u0654 ي\u0654 ا ا ب ب ب ب ة ة"),
  (0xfe95, "ت ت ت ت ث ث ث ث ج ج"),
  (0xfe9f, "ج ج ح ح ح ح خ خ خ خ د د ذ ذ ر ر ز ز س س س س ش ش ش ش ص ص ص ص ض ض ض ض ط ط ط ط ظ ظ"),
  (0xfec7, "ظ ظ ع ع ع ع غ غ غ غ ف ف ف ف ق ق ق ق ك ك ك ك ل ل ل ل م م م م ن ن ن ن ه ه ه ه و و"),
  (0xfeef, "ى ى ي ي ي ي لا\u0653 لا\u0653 لا\u0654 لا\u0654 لا\u0655 لا\u0655 لا لا"),
  (0xff10, "0 1 2 3 4 5 6 7 8 9"), (0xff21, "A B C D E F G H I J K L M N O P Q R S T U V W X Y Z"),
  (0xff3f, "_  a b c d e f g h i j k l m n o p q r s t u v w x y z"),
  (0xff66, "ヲ ァ ィ ゥ ェ ォ ャ ュ ョ ッ ー ア イ ウ エ オ カ キ ク ケ コ サ シ ス セ ソ タ チ ツ テ ト ナ ニ ヌ ネ ノ ハ ヒ フ ヘ"),
  (0xff8e, "ホ マ ミ ム メ モ ヤ ユ ヨ ラ リ ル レ ロ ワ ン \u3099 \u309a ᅠ ᄀ ᄁ ᆪ ᄂ ᆬ ᆭ ᄃ ᄄ ᄅ ᆰ ᆱ ᆲ ᆳ ᆴ ᆵ ᄚ"),
  (0xffb1, "ᄆ ᄇ ᄈ ᄡ ᄉ"),
  (0xffb6, "ᄊ ᄋ ᄌ ᄍ ᄎ ᄏ ᄐ ᄑ ᄒ    ᅡ ᅢ ᅣ ᅤ ᅥ ᅦ   ᅧ ᅨ ᅩ ᅪ ᅫ ᅬ   ᅭ ᅮ ᅯ ᅰ ᅱ ᅲ   ᅳ ᅴ ᅵ"),
  (0x10781, "ː ˑ æ ʙ ɓ  ʣ ꭦ ʥ ʤ ɖ ɗ ᶑ ɘ ɞ ʩ ɤ ɢ ɠ ʛ ħ ʜ ɧ ʄ ʪ ʫ ɬ 𝼄 ꞎ ɮ 𝼅 ʎ 𝼆 ø ɶ ɷ q ɺ 𝼈 ɽ"),
  (0x107a9, "ɾ ʀ ʨ ʦ ꭧ ʧ ʈ ⱱ  ʏ ʡ ʢ ʘ ǀ ǁ ǂ 𝼊 𝼞"), (0x1109a, "𑂚  𑂜"), (0x110ab, "𑂫"),
  (0x1112e, "𑄮 𑄯"), (0x1134b, "𑍋 𑍌"), (0x114bb, "𑒻 𑒼  𑒾"), (0x115ba, "𑖺 𑖻"),
  (0x11938, "𑤸"),
  (0x1d400, "A B C D E F G H I J K L M N O P Q R S T U V W X Y Z a b c d e f g h i j k l m n"),
  (0x1d428, "o p q r s t u v w x y z A B C D E F G H I J K L M N O P Q R S T U V W X Y Z a b"),
  (0x1d450, "c d e f g  i j k l m n o p q r s t u v w x y z A B C D E F G H I J K L M N O P"),
  (0x1d478, "Q R S T U V W X Y Z a b c d e f g h i j k l m n o p q r s t u v w x y z A  C D"),
  (0x1d4a2, "G   J K   N O P Q  S T U V W X Y Z a b c d  f  h i j k l m n  p q r s t"),
  (0x1d4ca, "u v w x y z A B C D E F G H I J K L M N O P Q R S T U V W X Y Z a b c d e f g h"),
  (0x1d4f2, "i j k l m n o p q r s t u v w x y z A B  D E F G   J K L M N O P Q  S T U V"),
  (0x1d51a, "W X Y  a b c d e f g h i j k l m n o p q r s t u v w x y z A B  D E F G  I J"),
  (0x1d542, "K L M  O    S T U V W X Y  a b c d e f g h i j k l m n o p q r s t u v w x"),
  (0x1d56a, "y z A B C D E F G H I J K L M N O P Q R S T U V W X Y Z a b c d e f g h i j k l"),
  (0x1d592, "m n o p q r s t u v w x y z A B C D E F G H I J K L M N O P Q R S T U V W X Y Z"),
  (0x1d5ba, "a b c d e f g h i j k l m n o p q r s t u v w x y z A B C D E F G H I J K L M N"),
  (0x1d5e2, "O P Q R S T U V W X Y Z a b c d e f g h i j k l m n o p q r s t u v w x y z A B"),
  (0x1d60a, "C D E F G H I J K L M N O P Q R S T U V W X Y Z a b c d e f g h i j k l m n o p"),
  (0x1d632, "q r s t u v w x y z A B C D E F G H I J K L M N O P Q R S T U V W X Y Z a b c d"),
  (0x1d65a, "e f g h i j k l m n o p q r s t u v w x y z A B C D E F G H I J K L M N O P Q R"),
  (0x1d682, "S T U V W X Y Z a b c d e f g h i j k l m n o p q r s t u v w x y z ı ȷ   Α Β"),
  (0x1d6aa, "Γ Δ Ε Ζ Η Θ Ι Κ Λ Μ Ν Ξ Ο Π Ρ Θ Σ Τ Υ Φ Χ Ψ Ω  α β γ δ ε ζ η θ ι κ λ μ ν ξ ο π"),
  (0x1d6d2, "ρ ς σ τ υ φ χ ψ ω  ε θ κ φ ρ π Α Β Γ Δ Ε Ζ Η Θ Ι Κ Λ Μ Ν Ξ Ο Π Ρ Θ Σ Τ Υ Φ Χ Ψ"),
  (0x1d6fa, "Ω  α β γ δ ε ζ η θ ι κ λ μ ν ξ ο π ρ ς σ τ υ φ χ ψ ω  ε θ κ φ ρ π Α Β Γ Δ Ε Ζ"),
  (0x1d722, "Η Θ Ι Κ Λ Μ Ν Ξ Ο Π Ρ Θ Σ Τ Υ Φ Χ Ψ Ω  α β γ δ ε ζ η θ ι κ λ μ ν ξ ο π ρ ς σ τ"),
  (0x1d74a, "υ φ χ ψ ω  ε θ κ φ ρ π Α Β Γ Δ Ε Ζ Η Θ Ι Κ Λ Μ Ν Ξ Ο Π Ρ Θ Σ Τ Υ Φ Χ Ψ Ω  α β"),
  (0x1d772, "γ δ ε ζ η θ ι κ λ μ ν ξ ο π ρ ς σ τ υ φ χ ψ ω  ε θ κ φ ρ π Α Β Γ Δ Ε Ζ Η Θ Ι Κ"),
  (0x1d79a, "Λ Μ Ν Ξ Ο Π Ρ Θ Σ Τ Υ Φ Χ Ψ Ω  α β γ δ ε ζ η θ ι κ λ μ ν ξ ο π ρ ς σ τ υ φ χ ψ"),
  (0x1d7c2, "ω  ε θ κ φ ρ π Ϝ ϝ   0 1 2 3 4 5 6 7 8 9 0 1 2 3 4 5 6 7 8 9 0 1 2 3 4 5 6 7"),
  (0x1d7ea, "8 9 0 1 2 3 4 5 6 7 8 9 0 1 2 3 4 5 6 7 8 9"),
  (0x1ee00, "ا ب ج د  و ز ح ط ي ك ل م ن س ع ف ص ق ر ش ت ث خ ذ ض ظ غ ٮ ں ڡ ٯ  ب ج  ه   ح"),
  (0x1ee29, "ي ك ل م ن س ع ف ص ق  ش ت ث خ  ض  غ"), (0x1ee42, "ج"),
  (0x1ee47, "ح  ي  ل  ن س ع  ص ق  ش   خ  ض  غ  ں  ٯ  ب ج  ه   ح ط ي ك  م ن س"),
  (0x1ee6f, "ع ف ص ق  ش ت ث خ  ض ظ غ ٮ  ڡ  ا ب ج د ه و ز ح ط ي  ل م ن س ع ف ص ق ر ش ت ث"),
  (0x1ee97, "خ ذ ض ظ غ"), (0x1eea1, "ب ج د  و ز ح ط ي  ل م ن س ع ف ص ق ر ش ت ث خ ذ ض ظ غ"),
  (0x1fbf0, "0 1 2 3 4 5 6 7 8 9"),
  (0x2f800, "丽 丸 乁 𠄢 你 侮 侻 倂 偺 備 僧 像 㒞 𠘺 免 兔 兤 具 𠔜 㒹 內 再 𠕋 冗 冤 仌 冬 况 𩇟 凵 刃 㓟 刻 剆 割 剷 㔕 勇 勉 勤"),
  (0x2f828, "勺 包 匆 北 卉 卑 博 即 卽 卿 卿 卿 𠨬 灰 及 叟 𠭣 叫 叱 吆 咞 吸 呈 周 咢 哶 唐 啓 啣 善 善 喙 喫 喳 嗂 圖 嘆 圗 噑 噴"),
  (0x2f850, "切 壮 城 埴 堍 型 堲 報 墬 𡓤 売 壷 夆 多 夢 奢 𡚨 𡛪 姬 娛 娧 姘 婦 㛮 㛼 嬈 嬾 嬾 𡧈 寃 寘 寧 寳 𡬘 寿 将 当 尢 㞁 屠"),
  (0x2f878, "屮 峀 岍 𡷤 嵃 𡷦 嵮 嵫 嵼 巡 巢 㠯 巽 帨 帽 幩 㡢 𢆃 㡼 庰 庳 庶 廊 𪎒 廾 𢌱 𢌱 舁 弢 弢 㣇 𣊸 𦇚 形 彫 㣣 徚 忍 志 忹"),
  (0x2f8a0, "悁 㤺 㤜 悔 𢛔 惇 慈 慌 慎 慌 慺 憎 憲 憤 憯 懞 懲 懶 成 戛 扝 抱 拔 捐 𢬌 挽 拼 捨 掃 揤 𢯱 搢 揅 掩 㨮 摩 摾 撝 摷 㩬"),
  (0x2f8c8, "敏 敬 𣀊 旣 書 晉 㬙 暑 㬈 㫤 冒 冕 最 暜 肭 䏙 朗 望 朡 杞 杓 𣏃 㭉 柺 枅 桒 梅 𣑭 梎 栟 椔 㮝 楂 榣 槪 檨 𣚣 櫛 㰘 次"),
  (0x2f8f0, "𣢧 歔 㱎 歲 殟 殺 殻 𣪍 𡴋 𣫺 汎 𣲼 沿 泍 汧 洖 派 海 流 浩 浸 涅 𣴞 洴 港 湮 㴳 滋 滇 𣻑 淹 潮 𣽞 𣾎 濆 瀹 瀞 瀛 㶖 灊"),
  (0x2f918, "災 灷 炭 𠔥 煅 𤉣 熜 𤎫 爨 爵 牐 𤘈 犀 犕 𤜵 𤠔 獺 王 㺬 玥 㺸 㺸 瑇 瑜 瑱 璅 瓊 㼛 甤 𤰶 甾 𤲒 異 𢆟 瘐 𤾡 𤾸 𥁄 㿼 䀈"),
  (0x2f940, "直 𥃳 𥃲 𥄙 𥄳 眞 真 真 睊 䀹 瞋 䁆 䂖 𥐝 硎 碌 磌 䃣 𥘦 祖 𥚚 𥛅 福 秫 䄯 穀 穊 穏 𥥼 𥪧 𥪧 竮 䈂 𥮫 篆 築 䈧 𥲀 糒 䊠"),
  (0x2f968, "糨 糣 紀 𥾆 絣 䌁 緇 縂 繅 䌴 𦈨 𦉇 䍙 𦋙 罺 𦌾 羕 翺 者 𦓚 𦔣 聠 𦖨 聰 𣍟 䏕 育 脃 䐋 脾 媵 𦞧 𦞵 𣎓 𣎜 舁 舄 辞 䑫 芑"),
  (0x2f990, "芋 芝 劳 花 芳 芽 苦 𦬼 若 茝 荣 莭 茣 莽 菧 著 荓 菊 菌 菜 𦰶 𦵫 𦳕 䔫 蓱 蓳 蔖 𧏊 蕤 𦼬 䕝 䕡 𦾱 𧃒 䕫 虐 虜 虧 虩 蚩"),
  (0x2f9b8, "蚈 蜎 蛢 蝹 蜨 蝫 螆 䗗 蟡 蠁 䗹 衠 衣 𧙧 裗 裞 䘵 裺 㒻 𧢮 𧥦 䚾 䛇 誠 諭 變 豕 𧲨 貫 賁 贛 起 𧼯 𠠄 跋 趼 跰 𠣞 軔 輸"),
  (0x2f9e0, "𨗒 𨗭 邔 郱 鄑 𨜮 鄛 鈸 鋗 鋘 鉼 鏹 鐕 𨯺 開 䦕 閷 𨵷 䧦 雃 嶲 霣 𩅅 𩈚 䩮 䩶 韠 𩐊 䪲 𩒖 頋 頋 頩 𩖶 飢 䬳 餩 馧 駂 駾"),
  (0x2fa08, "䯎 𩬰 鬒 鱀 鳽 䳎 䳭 鵧 𪃎 䳸 𪄅 𪈎 𪊑 麻 䵖 黹 黾 鼅 鼏 鼖 鼻 𪘀")]

/-- Ranges of marks with their combining class; characters without a range are of class zero. -/
def classes : List (Nat × Nat × Nat) := [
  (0x300, 0x314, 230), (0x315, 0x315, 232), (0x316, 0x319, 220), (0x31a, 0x31a, 232),
  (0x31b, 0x31b, 216), (0x31c, 0x320, 220), (0x321, 0x322, 202), (0x323, 0x326, 220),
  (0x327, 0x328, 202), (0x329, 0x333, 220), (0x334, 0x338, 1), (0x339, 0x33c, 220),
  (0x33d, 0x344, 230), (0x345, 0x345, 240), (0x346, 0x346, 230), (0x347, 0x349, 220),
  (0x34a, 0x34c, 230), (0x34d, 0x34e, 220), (0x350, 0x352, 230), (0x353, 0x356, 220),
  (0x357, 0x357, 230), (0x358, 0x358, 232), (0x359, 0x35a, 220), (0x35b, 0x35b, 230),
  (0x35c, 0x35c, 233), (0x35d, 0x35e, 234), (0x35f, 0x35f, 233), (0x360, 0x361, 234),
  (0x362, 0x362, 233), (0x363, 0x36f, 230), (0x483, 0x487, 230), (0x591, 0x591, 220),
  (0x592, 0x595, 230), (0x596, 0x596, 220), (0x597, 0x599, 230), (0x59a, 0x59a, 222),
  (0x59b, 0x59b, 220), (0x59c, 0x5a1, 230), (0x5a2, 0x5a7, 220), (0x5a8, 0x5a9, 230),
  (0x5aa, 0x5aa, 220), (0x5ab, 0x5ac, 230), (0x5ad, 0x5ad, 222), (0x5ae, 0x5ae, 228),
  (0x5af, 0x5af, 230), (0x5b0, 0x5b0, 10), (0x5b1, 0x5b1, 11), (0x5b2, 0x5b2, 12),
  (0x5b3, 0x5b3, 13), (0x5b4, 0x5b4, 14), (0x5b5, 0x5b5, 15), (0x5b6, 0x5b6, 16),
  (0x5b7, 0x5b7, 17), (0x5b8, 0x5b8, 18), (0x5b9, 0x5ba, 19), (0x5bb, 0x5bb, 20),
  (0x5bc, 0x5bc, 21), (0x5bd, 0x5bd, 22), (0x5bf, 0x5bf, 23), (0x5c1, 0x5c1, 24),
  (0x5c2, 0x5c2, 25), (0x5c4, 0x5c4, 230), (0x5c5, 0x5c5, 220), (0x5c7, 0x5c7, 18),
  (0x610, 0x617, 230), (0x618, 0x618, 30), (0x619, 0x619, 31), (0x61a, 0x61a, 32),
  (0x64b, 0x64b, 27), (0x64c, 0x64c, 28), (0x64d, 0x64d, 29), (0x64e, 0x64e, 30),
  (0x64f, 0x64f, 31), (0x650, 0x650, 32), (0x651, 0x651, 33), (0x652, 0x652, 34),
  (0x653, 0x654, 230), (0x655, 0x656, 220), (0x657, 0x65b, 230), (0x65c, 0x65c, 220),
  (0x65d, 0x65e, 230), (0x65f, 0x65f, 220), (0x670, 0x670, 35), (0x6d6, 0x6dc, 230),
  (0x6df, 0x6e2, 230), (0x6e3, 0x6e3, 220), (0x6e4, 0x6e4, 230), (0x6e7, 0x6e8, 230),
  (0x6ea, 0x6ea, 220), (0x6eb, 0x6ec, 230), (0x6ed, 0x6ed, 220), (0x711, 0x711, 36),
  (0x730, 0x730, 230), (0x731, 0x731, 220), (0x732, 0x733, 230), (0x734, 0x734, 220),
  (0x735, 0x736, 230), (0x737, 0x739, 220), (0x73a, 0x73a, 230), (0x73b, 0x73c, 220),
  (0x73d, 0x73d, 230), (0x73e, 0x73e, 220), (0x73f, 0x741, 230), (0x742, 0x742, 220),
  (0x743, 0x743, 230), (0x744, 0x744, 220), (0x745, 0x745, 230), (0x746, 0x746, 220),
  (0x747, 0x747, 230), (0x748, 0x748, 220), (0x749, 0x74a, 230), (0x7eb, 0x7f1, 230),
  (0x7f2, 0x7f2, 220), (0x7f3, 0x7f3, 230), (0x7fd, 0x7fd, 220), (0x816, 0x819, 230),
  (0x81b, 0x823, 230), (0x825, 0x827, 230), (0x829, 0x82d, 230), (0x859, 0x85b, 220),
  (0x898, 0x898, 230), (0x899, 0x89b, 220), (0x89c, 0x89f, 230), (0x8ca, 0x8ce, 230),
  (0x8cf, 0x8d3, 220), (0x8d4, 0x8e1, 230), (0x8e3, 0x8e3, 220), (0x8e4, 0x8e5, 230),
  (0x8e6, 0x8e6, 220), (0x8e7, 0x8e8, 230), (0x8e9, 0x8e9, 220), (0x8ea, 0x8ec, 230),
  (0x8ed, 0x8ef, 220), (0x8f0, 0x8f0, 27), (0x8f1, 0x8f1, 28), (0x8f2, 0x8f2, 29),
  (0x8f3, 0x8f5, 230), (0x8f6, 0x8f6, 220), (0x8f7, 0x8f8, 230), (0x8f9, 0x8fa, 220),
  (0x8fb, 0x8ff, 230), (0x93c, 0x93c, 7), (0x94d, 0x94d, 9), (0x951, 0x951, 230),
  (0x952, 0x952, 220), (0x953, 0x954, 230), (0x9bc, 0x9bc, 7), (0x9cd, 0x9cd, 9),
  (0x9fe, 0x9fe, 230), (0xa3c, 0xa3c, 7), (0xa4d, 0xa4d, 9), (0xabc, 0xabc, 7), (0xacd, 0xacd, 9),
  (0xb3c, 0xb3c, 7), (0xb4d, 0xb4d, 9), (0xbcd, 0xbcd, 9), (0xc3c, 0xc3c, 7), (0xc4d, 0xc4d, 9),
  (0xc55, 0xc55, 84), (0xc56, 0xc56, 91), (0xcbc, 0xcbc, 7), (0xccd, 0xccd, 9), (0xd3b, 0xd3c, 9),
  (0xd4d, 0xd4d, 9), (0xdca, 0xdca, 9), (0xe38, 0xe39, 103), (0xe3a, 0xe3a, 9),
  (0xe48, 0xe4b, 107), (0xeb8, 0xeb9, 118), (0xeba, 0xeba, 9), (0xec8, 0xecb, 122),
  (0xf18, 0xf19, 220), (0xf35, 0xf35, 220), (0xf37, 0xf37, 220), (0xf39, 0xf39, 216),
  (0xf71, 0xf71, 129), (0xf72, 0xf72, 130), (0xf74, 0xf74, 132), (0xf7a, 0xf7d, 130),
  (0xf80, 0xf80, 130), (0xf82, 0xf83, 230), (0xf84, 0xf84, 9), (0xf86, 0xf87, 230),
  (0xfc6, 0xfc6, 220), (0x1037, 0x1037, 7), (0x1039, 0x103a, 9), (0x108d, 0x108d, 220),
  (0x135d, 0x135f, 230), (0x1714, 0x1715, 9), (0x1734, 0x1734, 9), (0x17d2, 0x17d2, 9),
  (0x17dd, 0x17dd, 230), (0x18a9, 0x18a9, 228), (0x1939, 0x1939, 222), (0x193a, 0x193a, 230),
  (0x193b, 0x193b, 220), (0x1a17, 0x1a17, 230), (0x1a18, 0x1a18, 220), (0x1a60, 0x1a60, 9),
  (0x1a75, 0x1a7c, 230), (0x1a7f, 0x1a7f, 220), (0x1ab0, 0x1ab4, 230), (0x1ab5, 0x1aba, 220),
  (0x1abb, 0x1abc, 230), (0x1abd, 0x1abd, 220), (0x1abf, 0x1ac0, 220), (0x1ac1, 0x1ac2, 230),
  (0x1ac3, 0x1ac4, 220), (0x1ac5, 0x1ac9, 230), (0x1aca, 0x1aca, 220), (0x1acb, 0x1ace, 230),
  (0x1b34, 0x1b34, 7), (0x1b44, 0x1b44, 9), (0x1b6b, 0x1b6b, 230), (0x1b6c, 0x1b6c, 220),
  (0x1b6d, 0x1b73, 230), (0x1baa, 0x1bab, 9), (0x1be6, 0x1be6, 7), (0x1bf2, 0x1bf3, 9),
  (0x1c37, 0x1c37, 7), (0x1cd0, 0x1cd2, 230), (0x1cd4, 0x1cd4, 1), (0x1cd5, 0x1cd9, 220),
  (0x1cda, 0x1cdb, 230), (0x1cdc, 0x1cdf, 220), (0x1ce0, 0x1ce0, 230), (0x1ce2, 0x1ce8, 1),
  (0x1ced, 0x1ced, 220), (0x1cf4, 0x1cf4, 230), (0x1cf8, 0x1cf9, 230), (0x1dc0, 0x1dc1, 230),
  (0x1dc2, 0x1dc2, 220), (0x1dc3, 0x1dc9, 230), (0x1dca, 0x1dca, 220), (0x1dcb, 0x1dcc, 230),
  (0x1dcd, 0x1dcd, 234), (0x1dce, 0x1dce, 214), (0x1dcf, 0x1dcf, 220), (0x1dd0, 0x1dd0, 202),
  (0x1dd1, 0x1df5, 230), (0x1df6, 0x1df6, 232), (0x1df7, 0x1df8, 228), (0x1df9, 0x1df9, 220),
  (0x1dfa, 0x1dfa, 218), (0x1dfb, 0x1dfb, 230), (0x1dfc, 0x1dfc, 233), (0x1dfd, 0x1dfd, 220),
  (0x1dfe, 0x1dfe, 230), (0x1dff, 0x1dff, 220), (0x20d0, 0x20d1, 230), (0x20d2, 0x20d3, 1),
  (0x20d4, 0x20d7, 230), (0x20d8, 0x20da, 1), (0x20db, 0x20dc, 230), (0x20e1, 0x20e1, 230),
  (0x20e5, 0x20e6, 1), (0x20e7, 0x20e7, 230), (0x20e8, 0x20e8, 220), (0x20e9, 0x20e9, 230),
  (0x20ea, 0x20eb, 1), (0x20ec, 0x20ef, 220), (0x20f0, 0x20f0, 230), (0x2cef, 0x2cf1, 230),
  (0x2d7f, 0x2d7f, 9), (0x2de0, 0x2dff, 230), (0x302a, 0x302a, 218), (0x302b, 0x302b, 228),
  (0x302c, 0x302c, 232), (0x302d, 0x302d, 222), (0x302e, 0x302f, 224), (0x3099, 0x309a, 8),
  (0xa66f, 0xa66f, 230), (0xa674, 0xa67d, 230), (0xa69e, 0xa69f, 230), (0xa6f0, 0xa6f1, 230),
  (0xa806, 0xa806, 9), (0xa82c, 0xa82c, 9), (0xa8c4, 0xa8c4, 9), (0xa8e0, 0xa8f1, 230),
  (0xa92b, 0xa92d, 220), (0xa953, 0xa953, 9), (0xa9b3, 0xa9b3, 7), (0xa9c0, 0xa9c0, 9),
  (0xaab0, 0xaab0, 230), (0xaab2, 0xaab3, 230), (0xaab4, 0xaab4, 220), (0xaab7, 0xaab8, 230),
  (0xaabe, 0xaabf, 230), (0xaac1, 0xaac1, 230), (0xaaf6, 0xaaf6, 9), (0xabed, 0xabed, 9),
  (0xfb1e, 0xfb1e, 26), (0xfe20, 0xfe26, 230), (0xfe27, 0xfe2d, 220), (0xfe2e, 0xfe2f, 230),
  (0x101fd, 0x101fd, 220), (0x102e0, 0x102e0, 220), (0x10376, 0x1037a, 230),
  (0x10a0d, 0x10a0d, 220), (0x10a0f, 0x10a0f, 230), (0x10a38, 0x10a38, 230), (0x10a39, 0x10a39, 1),
  (0x10a3a, 0x10a3a, 220), (0x10a3f, 0x10a3f, 9), (0x10ae5, 0x10ae5, 230), (0x10ae6, 0x10ae6, 220),
  (0x10d24, 0x10d27, 230), (0x10eab, 0x10eac, 230), (0x10f46, 0x10f47, 220),
  (0x10f48, 0x10f4a, 230), (0x10f4b, 0x10f4b, 220), (0x10f4c, 0x10f4c, 230),
  (0x10f4d, 0x10f50, 220), (0x10f82, 0x10f82, 230), (0x10f83, 0x10f83, 220),
  (0x10f84, 0x10f84, 230), (0x10f85, 0x10f85, 220), (0x11046, 0x11046, 9), (0x11070, 0x11070, 9),
  (0x1107f, 0x1107f, 9), (0x110b9, 0x110b9, 9), (0x110ba, 0x110ba, 7), (0x11100, 0x11102, 230),
  (0x11133, 0x11134, 9), (0x11173, 0x11173, 7), (0x111c0, 0x111c0, 9), (0x111ca, 0x111ca, 7),
  (0x11235, 0x11235, 9), (0x11236, 0x11236, 7), (0x112e9, 0x112e9, 7), (0x112ea, 0x112ea, 9),
  (0x1133b, 0x1133c, 7), (0x1134d, 0x1134d, 9), (0x11366, 0x1136c, 230), (0x11370, 0x11374, 230),
  (0x11442, 0x11442, 9), (0x11446, 0x11446, 7), (0x1145e, 0x1145e, 230), (0x114c2, 0x114c2, 9),
  (0x114c3, 0x114c3, 7), (0x115bf, 0x115bf, 9), (0x115c0, 0x115c0, 7), (0x1163f, 0x1163f, 9),
  (0x116b6, 0x116b6, 9), (0x116b7, 0x116b7, 7), (0x1172b, 0x1172b, 9), (0x11839, 0x11839, 9),
  (0x1183a, 0x1183a, 7), (0x1193d, 0x1193e, 9), (0x11943, 0x11943, 7), (0x119e0, 0x119e0, 9),
  (0x11a34, 0x11a34, 9), (0x11a47, 0x11a47, 9), (0x11a99, 0x11a99, 9), (0x11c3f, 0x11c3f, 9),
  (0x11d42, 0x11d42, 7), (0x11d44, 0x11d45, 9), (0x11d97, 0x11d97, 9), (0x16af0, 0x16af4, 1),
  (0x16b30, 0x16b36, 230), (0x16ff0, 0x16ff1, 6), (0x1bc9e, 0x1bc9e, 1), (0x1d165, 0x1d166, 216),
  (0x1d167, 0x1d169, 1), (0x1d16d, 0x1d16d, 226), (0x1d16e, 0x1d172, 216), (0x1d17b, 0x1d182, 220),
  (0x1d185, 0x1d189, 230), (0x1d18a, 0x1d18b, 220), (0x1d1aa, 0x1d1ad, 230),
  (0x1d242, 0x1d244, 230), (0x1e000, 0x1e006, 230), (0x1e008, 0x1e018, 230),
  (0x1e01b, 0x1e021, 230), (0x1e023, 0x1e024, 230), (0x1e026, 0x1e02a, 230),
  (0x1e130, 0x1e136, 230), (0x1e2ae, 0x1e2ae, 230), (0x1e2ec, 0x1e2ef, 230),
  (0x1e8d0, 0x1e8d6, 220), (0x1e944, 0x1e949, 230), (0x1e94a, 0x1e94a, 7)]

/-- By the second character of a pair, the first ones, each with what the two are composed to. -/
def compositions : List (Nat × String) := [
  (0x300, "AÀ EÈ IÌ OÒ UÙ aà eè iì oò uù ÜǛ üǜ NǸ nǹ ЕЀ ИЍ еѐ иѝ ĒḔ ēḕ ŌṐ ōṑ WẀ wẁ ÂẦ âầ ĂẰ"),
  (0x300, "ăằ ÊỀ êề ÔỒ ôồ ƠỜ ơờ ƯỪ ưừ YỲ yỳ ἀἂ ἁἃ ἈἊ ἉἋ ἐἒ ἑἓ ἘἚ ἙἛ ἠἢ ἡἣ ἨἪ ἩἫ ἰἲ ἱἳ ἸἺ ἹἻ"),
  (0x300, "ὀὂ ὁὃ ὈὊ ὉὋ ὐὒ ὑὓ ὙὛ ὠὢ ὡὣ ὨὪ ὩὫ αὰ εὲ ηὴ ιὶ οὸ υὺ ωὼ ΑᾺ ΕῈ ΗῊ ᾿῍ ϊῒ ΙῚ ῾῝ ϋῢ ΥῪ"),
  (0x300, "¨῭ ΟῸ ΩῺ"),
  (0x301, "AÁ EÉ IÍ OÓ UÚ YÝ aá eé ií oó uú yý CĆ cć LĹ lĺ NŃ nń RŔ rŕ SŚ sś ZŹ zź ÜǗ üǘ GǴ"),
  (0x301, "gǵ ÅǺ åǻ ÆǼ æǽ ØǾ øǿ ¨΅ ΑΆ ΕΈ ΗΉ ΙΊ ΟΌ ΥΎ ΩΏ ϊΐ αά εέ ηή ιί ϋΰ οό υύ ωώ ϒϓ ГЃ КЌ"),
  (0x301, "гѓ кќ ÇḈ çḉ ĒḖ ēḗ ÏḮ ïḯ KḰ kḱ MḾ mḿ ÕṌ õṍ ŌṒ ōṓ PṔ pṕ ŨṸ ũṹ WẂ wẃ ÂẤ âấ ĂẮ ăắ ÊẾ"),
  (0x301, "êế ÔỐ ôố ƠỚ ơớ ƯỨ ưứ ἀἄ ἁἅ ἈἌ ἉἍ ἐἔ ἑἕ ἘἜ ἙἝ ἠἤ ἡἥ ἨἬ ἩἭ ἰἴ ἱἵ ἸἼ ἹἽ ὀὄ ὁὅ ὈὌ ὉὍ"),
  (0x301, "ὐὔ ὑὕ ὙὝ ὠὤ ὡὥ ὨὬ ὩὭ ᾿῎ ῾῞"),
  (0x302, "AÂ EÊ IÎ OÔ UÛ aâ eê iî oô uû CĈ cĉ GĜ gĝ HĤ hĥ JĴ jĵ SŜ sŝ WŴ wŵ YŶ yŷ ZẐ zẑ ẠẬ"),
  (0x302, "ạậ ẸỆ ẹệ ỌỘ ọộ"),
  (0x303, "AÃ NÑ OÕ aã nñ oõ IĨ iĩ UŨ uũ VṼ vṽ ÂẪ âẫ ĂẴ ăẵ EẼ eẽ ÊỄ êễ ÔỖ ôỗ ƠỠ ơỡ ƯỮ ưữ YỸ"),
  (0x303, "yỹ"),
  (0x304, "AĀ aā EĒ eē IĪ iī OŌ oō UŪ uū ÜǕ üǖ ÄǞ äǟ ȦǠ ȧǡ ÆǢ æǣ ǪǬ ǫǭ ÖȪ öȫ ÕȬ õȭ ȮȰ ȯȱ YȲ"),
  (0x304, "yȳ ИӢ иӣ УӮ уӯ GḠ gḡ ḶḸ ḷḹ ṚṜ ṛṝ αᾱ ΑᾹ ιῑ ΙῙ υῡ ΥῩ"),
  (0x306, "AĂ aă EĔ eĕ GĞ gğ IĬ iĭ OŎ oŏ UŬ uŭ УЎ ИЙ ий уў ЖӁ жӂ АӐ аӑ ЕӖ еӗ ȨḜ ȩḝ ẠẶ ạặ αᾰ"),
  (0x306, "ΑᾸ ιῐ ΙῘ υῠ ΥῨ"),
  (0x307, "CĊ cċ EĖ eė GĠ gġ Iİ ZŻ zż AȦ aȧ OȮ oȯ BḂ bḃ DḊ dḋ FḞ fḟ HḢ hḣ MṀ mṁ NṄ nṅ PṖ pṗ"),
  (0x307, "RṘ rṙ SṠ sṡ ŚṤ śṥ ŠṦ šṧ ṢṨ ṣṩ TṪ tṫ WẆ wẇ XẊ xẋ YẎ yẏ ſẛ"),
  (0x308, "AÄ EË IÏ OÖ UÜ aä eë iï oö uü yÿ YŸ ΙΪ ΥΫ ιϊ υϋ ϒϔ ЕЁ ІЇ её ії АӒ аӓ ӘӚ әӛ ЖӜ жӝ"),
  (0x308, "ЗӞ зӟ ИӤ иӥ ОӦ оӧ ӨӪ өӫ ЭӬ эӭ УӰ уӱ ЧӴ чӵ ЫӸ ыӹ HḦ hḧ ÕṎ õṏ ŪṺ ūṻ WẄ wẅ XẌ xẍ tẗ"),
  (0x309, "AẢ aả ÂẨ âẩ ĂẲ ăẳ EẺ eẻ ÊỂ êể IỈ iỉ OỎ oỏ ÔỔ ôổ ƠỞ ơở UỦ uủ ƯỬ ưử YỶ yỷ"),
  (0x30a, "AÅ aå UŮ uů wẘ yẙ"), (0x30b, "OŐ oő UŰ uű УӲ уӳ"),
  (0x30c, "CČ cč DĎ dď EĚ eě LĽ lľ NŇ nň RŘ rř SŠ sš TŤ tť ZŽ zž AǍ aǎ IǏ iǐ OǑ oǒ UǓ uǔ ÜǙ"),
  (0x30c, "üǚ GǦ gǧ KǨ kǩ ƷǮ ʒǯ jǰ HȞ hȟ"), (0x30f, "AȀ aȁ EȄ eȅ IȈ iȉ OȌ oȍ RȐ rȑ UȔ uȕ ѴѶ ѵѷ"),
  (0x311, "AȂ aȃ EȆ eȇ IȊ iȋ OȎ oȏ RȒ rȓ UȖ uȗ"),
  (0x313, "αἀ ΑἈ εἐ ΕἘ ηἠ ΗἨ ιἰ ΙἸ οὀ ΟὈ υὐ ωὠ ΩὨ ρῤ"),
  (0x314, "αἁ ΑἉ εἑ ΕἙ ηἡ ΗἩ ιἱ ΙἹ οὁ ΟὉ υὑ ΥὙ ωὡ ΩὩ ρῥ ΡῬ"), (0x31b, "OƠ oơ UƯ uư"),
  (0x323, "BḄ bḅ DḌ dḍ HḤ hḥ KḲ kḳ LḶ lḷ MṂ mṃ NṆ nṇ RṚ rṛ SṢ sṣ TṬ tṭ VṾ vṿ WẈ wẉ ZẒ zẓ AẠ"),
  (0x323, "aạ EẸ eẹ IỊ iị OỌ oọ ƠỢ ơợ UỤ uụ ƯỰ ưự YỴ yỵ"), (0x324, "UṲ uṳ"), (0x325, "AḀ aḁ"),
  (0x326, "SȘ sș TȚ tț"),
  (0x327, "CÇ cç GĢ gģ KĶ kķ LĻ lļ NŅ nņ RŖ rŗ SŞ sş TŢ tţ EȨ eȩ DḐ dḑ HḨ hḩ"),
  (0x328, "AĄ aą EĘ eę IĮ iį UŲ uų OǪ oǫ"), (0x32d, "DḒ dḓ EḘ eḙ LḼ lḽ NṊ nṋ TṰ tṱ UṶ uṷ"),
  (0x32e, "HḪ hḫ"), (0x330, "EḚ eḛ IḬ iḭ UṴ uṵ"),
  (0x331, "BḆ bḇ DḎ dḏ KḴ kḵ LḺ lḻ NṈ nṉ RṞ rṟ TṮ tṯ ZẔ zẕ hẖ"),
  (0x338, "←↚ →↛ ↔↮ ⇐⇍ ⇔⇎ ⇒⇏ ∃∄ ∈∉ ∋∌ ∣∤ ∥∦ ∼≁ ≃≄ ≅≇ ≈≉ =≠ ≡≢ ≍≭ <≮ >≯ ≤≰ ≥≱ ≲≴ ≳≵ ≶≸ ≷≹ ≺⊀"),
  (0x338, "≻⊁ ⊂⊄ ⊃⊅ ⊆⊈ ⊇⊉ ⊢⊬ ⊨⊭ ⊩⊮ ⊫⊯ ≼⋠ ≽⋡ ⊑⋢ ⊒⋣ ⊲⋪ ⊳⋫ ⊴⋬ ⊵⋭"),
  (0x342, "ἀἆ ἁἇ ἈἎ ἉἏ ἠἦ ἡἧ ἨἮ ἩἯ ἰἶ ἱἷ ἸἾ ἹἿ ὐὖ ὑὗ ὙὟ ὠὦ ὡὧ ὨὮ ὩὯ αᾶ ¨῁ ηῆ ᾿῏ ιῖ ϊῗ ῾῟ υῦ"),
  (0x342, "ϋῧ ωῶ"),
  (0x345, "ἀᾀ ἁᾁ ἂᾂ ἃᾃ ἄᾄ ἅᾅ ἆᾆ ἇᾇ Ἀᾈ Ἁᾉ Ἂᾊ Ἃᾋ Ἄᾌ Ἅᾍ Ἆᾎ Ἇᾏ ἠᾐ ἡᾑ ἢᾒ ἣᾓ ἤᾔ ἥᾕ ἦᾖ ἧᾗ Ἠᾘ Ἡᾙ Ἢᾚ"),
  (0x345, "Ἣᾛ Ἤᾜ Ἥᾝ Ἦᾞ Ἧᾟ ὠᾠ ὡᾡ ὢᾢ ὣᾣ ὤᾤ ὥᾥ ὦᾦ ὧᾧ Ὠᾨ Ὡᾩ Ὢᾪ Ὣᾫ Ὤᾬ Ὥᾭ Ὦᾮ Ὧᾯ ὰᾲ αᾳ άᾴ ᾶᾷ Αᾼ ὴῂ"),
  (0x345, "ηῃ ήῄ ῆῇ Ηῌ ὼῲ ωῳ ώῴ ῶῷ Ωῼ"), (0x653, "اآ"), (0x654, "اأ وؤ يئ ەۀ ہۂ ےۓ"),
  (0x655, "اإ"), (0x93c, "नऩ रऱ ळऴ"), (0x9be, "\u09c7\u09cb"), (0x9d7, "\u09c7\u09cc"),
  (0xb3e, "\u0b47\u0b4b"), (0xb56, "\u0b47\u0b48"), (0xb57, "\u0b47\u0b4c"),
  (0xbbe, "\u0bc6\u0bca \u0bc7\u0bcb"), (0xbd7, "ஒஔ \u0bc6\u0bcc"), (0xc56, "\u0c46\u0c48"),
  (0xcc2, "\u0cc6\u0cca"), (0xcd5, "\u0cbf\u0cc0 \u0cc6\u0cc7 \u0cca\u0ccb"),
  (0xcd6, "\u0cc6\u0cc8"), (0xd3e, "\u0d46\u0d4a \u0d47\u0d4b"), (0xd57, "\u0d46\u0d4c"),
  (0xdca, "\u0dd9\u0dda \u0ddc\u0ddd"), (0xdcf, "\u0dd9\u0ddc"), (0xddf, "\u0dd9\u0dde"),
  (0x102e, "ဥဦ"),
  (0x1b35, "ᬅᬆ ᬇᬈ ᬉᬊ ᬋᬌ ᬍᬎ ᬑᬒ \u1b3a\u1b3b \u1b3c\u1b3d \u1b3e\u1b40 \u1b3f\u1b41"),
  (0x1b35, "\u1b42\u1b43"),
  (0x3099, "かが きぎ くぐ けげ こご さざ しじ すず せぜ そぞ ただ ちぢ つづ てで とど はば ひび ふぶ へべ ほぼ うゔ ゝゞ カガ キギ クグ ケゲ コゴ"),
  (0x3099, "サザ シジ スズ セゼ ソゾ タダ チヂ ツヅ テデ トド ハバ ヒビ フブ ヘベ ホボ ウヴ ワヷ ヰヸ ヱヹ ヲヺ ヽヾ"),
  (0x309a, "はぱ ひぴ ふぷ へぺ ほぽ ハパ ヒピ フプ ヘペ ホポ"), (0x110ba, "𑂙𑂚 𑂛𑂜 𑂥𑂫"), (0x11127, "𑄱𑄮 𑄲𑄯"),
  (0x1133e, "𑍇𑍋"), (0x11357, "𑍇𑍌"), (0x114b0, "𑒹𑒼"), (0x114ba, "𑒹𑒻"), (0x114bd, "𑒹𑒾"),
  (0x115af, "𑖸𑖺 𑖹𑖻"), (0x11930, "𑤵𑤸")]

end WireModel.Text.NormalizationData
