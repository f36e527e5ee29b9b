/-!
The data of display widths. Numbers are hexadecimal; a range is its first and its last number, or one
number.
-/

namespace LicenseChooser.Text

/-- Ranges of characters of East Asian width `W` or `F`. -/
def wideData : String :=
  "1100,115f 231a,231b 2329,232a 23e9,23ec 23f0 23f3 25fd,25fe 2614,2615 2648,2653 267f 2693
    26a1 26aa,26ab 26bd,26be 26c4,26c5 26ce 26d4 26ea 26f2,26f3 26f5 26fa 26fd 2705 270a,270b
    2728 274c 274e 2753,2755 2757 2795,2797 27b0 27bf 2b1b,2b1c 2b50 2b55 2e80,2e99 2e9b,2ef3
    2f00,2fd5 2ff0,2ffb 3000,303e 3041,3096 3099,30ff 3105,312f 3131,318e 3190,31e3 31f0,321e
    3220,3247 3250,4dbf 4e00,a48c a490,a4c6 a960,a97c ac00,d7a3 f900,faff fe10,fe19 fe30,fe52
    fe54,fe66 fe68,fe6b ff01,ff60 ffe0,ffe6 16fe0,16fe4 16ff0,16ff1 17000,187f7 18800,18cd5
    18d00,18d08 1aff0,1aff3 1aff5,1affb 1affd,1affe 1b000,1b122 1b132 1b150,1b152 1b155
    1b164,1b167 1b170,1b2fb 1f004 1f0cf 1f18e 1f191,1f19a 1f200,1f202 1f210,1f23b 1f240,1f248
    1f250,1f251 1f260,1f265 1f300,1f320 1f32d,1f335 1f337,1f37c 1f37e,1f393 1f3a0,1f3ca
    1f3cf,1f3d3 1f3e0,1f3f0 1f3f4 1f3f8,1f43e 1f440 1f442,1f4fc 1f4ff,1f53d 1f54b,1f54e
    1f550,1f567 1f57a 1f595,1f596 1f5a4 1f5fb,1f64f 1f680,1f6c5 1f6cc 1f6d0,1f6d2 1f6d5,1f6d7
    1f6dc,1f6df 1f6eb,1f6ec 1f6f4,1f6fc 1f7e0,1f7eb 1f7f0 1f90c,1f93a 1f93c,1f945 1f947,1f9ff
    1fa70,1fa7c 1fa80,1fa88 1fa90,1fabd 1fabf,1fac5 1face,1fadb 1fae0,1fae8 1faf0,1faf8
    20000,2fffd 30000,3fffd"

/-- Ranges of characters that are ignored where nothing displays them. -/
def ignorableData : String :=
  "ad 34f 61c 115f,1160 17b4,17b5 180b,180f 200b,200f 202a,202e 2060,206f 3164 fe00,fe0f feff
    ffa0 fff0,fff8 1bca0,1bca3 1d173,1d17a e0000,e0fff"

/-- Ranges of pictures, which join into one. -/
def pictureData : String :=
  "a9 ae 203c 2049 2122 2139 2194,2199 21a9,21aa 231a,231b 2328 2388 23cf 23e9,23f3 23f8,23fa
    24c2 25aa,25ab 25b6 25c0 25fb,25fe 2600,2605 2607,2612 2614,2685 2690,2705 2708,2712 2714
    2716 271d 2721 2728 2733,2734 2744 2747 274c 274e 2753,2755 2757 2763,2767 2795,2797 27a1
    27b0 27bf 2934,2935 2b05,2b07 2b1b,2b1c 2b50 2b55 3030 303d 3297 3299 1f000,1f0ff
    1f10d,1f10f 1f12f 1f16c,1f171 1f17e,1f17f 1f18e 1f191,1f19a 1f1ad,1f1e5 1f201,1f20f 1f21a
    1f22f 1f232,1f23a 1f23c,1f23f 1f249,1f3fa 1f400,1f53d 1f546,1f64f 1f680,1f6ff 1f774,1f77f
    1f7d5,1f7ff 1f80c,1f80f 1f848,1f84f 1f85a,1f85f 1f888,1f88f 1f8ae,1f8ff 1f90c,1f93a
    1f93c,1f945 1f947,1faff 1fc00,1fffd"

end LicenseChooser.Text
