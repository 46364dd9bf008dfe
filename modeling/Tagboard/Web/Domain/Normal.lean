import Tagboard.Web.Domain.Mapping

/-!
# Canonical composition

The composed normal form of a text whose characters are each in that form already. Characters are
taken apart into a base and its marks, marks are put in the order of their classes, and each mark is
then composed with the base as far as a composed character exists.
-/

namespace Tagboard.Domain

/-- The numbers of the composed characters: a base, a mark and the character that they compose. -/
def compositionNumbers : List String := [
    "3c 338 226e 3d 338 2260 3e 338 226f 41 300 c0 41 301 c1 41 302 c2 41 303 c3 41 304 100",
    "41 306 102 41 307 226 41 308 c4 41 309 1ea2 41 30a c5 41 30c 1cd 41 30f 200 41 311 202",
    "41 323 1ea0 41 325 1e00 41 328 104 42 307 1e02 42 323 1e04 42 331 1e06 43 301 106",
    "43 302 108 43 307 10a 43 30c 10c 43 327 c7 44 307 1e0a 44 30c 10e 44 323 1e0c 44 327 1e10",
    "44 32d 1e12 44 331 1e0e 45 300 c8 45 301 c9 45 302 ca 45 303 1ebc 45 304 112 45 306 114",
    "45 307 116 45 308 cb 45 309 1eba 45 30c 11a 45 30f 204 45 311 206 45 323 1eb8 45 327 228",
    "45 328 118 45 32d 1e18 45 330 1e1a 46 307 1e1e 47 301 1f4 47 302 11c 47 304 1e20 47 306 11e",
    "47 307 120 47 30c 1e6 47 327 122 48 302 124 48 307 1e22 48 308 1e26 48 30c 21e 48 323 1e24",
    "48 327 1e28 48 32e 1e2a 49 300 cc 49 301 cd 49 302 ce 49 303 128 49 304 12a 49 306 12c",
    "49 307 130 49 308 cf 49 309 1ec8 49 30c 1cf 49 30f 208 49 311 20a 49 323 1eca 49 328 12e",
    "49 330 1e2c 4a 302 134 4b 301 1e30 4b 30c 1e8 4b 323 1e32 4b 327 136 4b 331 1e34 4c 301 139",
    "4c 30c 13d 4c 323 1e36 4c 327 13b 4c 32d 1e3c 4c 331 1e3a 4d 301 1e3e 4d 307 1e40",
    "4d 323 1e42 4e 300 1f8 4e 301 143 4e 303 d1 4e 307 1e44 4e 30c 147 4e 323 1e46 4e 327 145",
    "4e 32d 1e4a 4e 331 1e48 4f 300 d2 4f 301 d3 4f 302 d4 4f 303 d5 4f 304 14c 4f 306 14e",
    "4f 307 22e 4f 308 d6 4f 309 1ece 4f 30b 150 4f 30c 1d1 4f 30f 20c 4f 311 20e 4f 31b 1a0",
    "4f 323 1ecc 4f 328 1ea 50 301 1e54 50 307 1e56 52 301 154 52 307 1e58 52 30c 158 52 30f 210",
    "52 311 212 52 323 1e5a 52 327 156 52 331 1e5e 53 301 15a 53 302 15c 53 307 1e60 53 30c 160",
    "53 323 1e62 53 326 218 53 327 15e 54 307 1e6a 54 30c 164 54 323 1e6c 54 326 21a 54 327 162",
    "54 32d 1e70 54 331 1e6e 55 300 d9 55 301 da 55 302 db 55 303 168 55 304 16a 55 306 16c",
    "55 308 dc 55 309 1ee6 55 30a 16e 55 30b 170 55 30c 1d3 55 30f 214 55 311 216 55 31b 1af",
    "55 323 1ee4 55 324 1e72 55 328 172 55 32d 1e76 55 330 1e74 56 303 1e7c 56 323 1e7e",
    "57 300 1e80 57 301 1e82 57 302 174 57 307 1e86 57 308 1e84 57 323 1e88 58 307 1e8a",
    "58 308 1e8c 59 300 1ef2 59 301 dd 59 302 176 59 303 1ef8 59 304 232 59 307 1e8e 59 308 178",
    "59 309 1ef6 59 323 1ef4 5a 301 179 5a 302 1e90 5a 307 17b 5a 30c 17d 5a 323 1e92",
    "5a 331 1e94 61 300 e0 61 301 e1 61 302 e2 61 303 e3 61 304 101 61 306 103 61 307 227",
    "61 308 e4 61 309 1ea3 61 30a e5 61 30c 1ce 61 30f 201 61 311 203 61 323 1ea1 61 325 1e01",
    "61 328 105 62 307 1e03 62 323 1e05 62 331 1e07 63 301 107 63 302 109 63 307 10b 63 30c 10d",
    "63 327 e7 64 307 1e0b 64 30c 10f 64 323 1e0d 64 327 1e11 64 32d 1e13 64 331 1e0f 65 300 e8",
    "65 301 e9 65 302 ea 65 303 1ebd 65 304 113 65 306 115 65 307 117 65 308 eb 65 309 1ebb",
    "65 30c 11b 65 30f 205 65 311 207 65 323 1eb9 65 327 229 65 328 119 65 32d 1e19 65 330 1e1b",
    "66 307 1e1f 67 301 1f5 67 302 11d 67 304 1e21 67 306 11f 67 307 121 67 30c 1e7 67 327 123",
    "68 302 125 68 307 1e23 68 308 1e27 68 30c 21f 68 323 1e25 68 327 1e29 68 32e 1e2b",
    "68 331 1e96 69 300 ec 69 301 ed 69 302 ee 69 303 129 69 304 12b 69 306 12d 69 308 ef",
    "69 309 1ec9 69 30c 1d0 69 30f 209 69 311 20b 69 323 1ecb 69 328 12f 69 330 1e2d 6a 302 135",
    "6a 30c 1f0 6b 301 1e31 6b 30c 1e9 6b 323 1e33 6b 327 137 6b 331 1e35 6c 301 13a 6c 30c 13e",
    "6c 323 1e37 6c 327 13c 6c 32d 1e3d 6c 331 1e3b 6d 301 1e3f 6d 307 1e41 6d 323 1e43",
    "6e 300 1f9 6e 301 144 6e 303 f1 6e 307 1e45 6e 30c 148 6e 323 1e47 6e 327 146 6e 32d 1e4b",
    "6e 331 1e49 6f 300 f2 6f 301 f3 6f 302 f4 6f 303 f5 6f 304 14d 6f 306 14f 6f 307 22f",
    "6f 308 f6 6f 309 1ecf 6f 30b 151 6f 30c 1d2 6f 30f 20d 6f 311 20f 6f 31b 1a1 6f 323 1ecd",
    "6f 328 1eb 70 301 1e55 70 307 1e57 72 301 155 72 307 1e59 72 30c 159 72 30f 211 72 311 213",
    "72 323 1e5b 72 327 157 72 331 1e5f 73 301 15b 73 302 15d 73 307 1e61 73 30c 161 73 323 1e63",
    "73 326 219 73 327 15f 74 307 1e6b 74 308 1e97 74 30c 165 74 323 1e6d 74 326 21b 74 327 163",
    "74 32d 1e71 74 331 1e6f 75 300 f9 75 301 fa 75 302 fb 75 303 169 75 304 16b 75 306 16d",
    "75 308 fc 75 309 1ee7 75 30a 16f 75 30b 171 75 30c 1d4 75 30f 215 75 311 217 75 31b 1b0",
    "75 323 1ee5 75 324 1e73 75 328 173 75 32d 1e77 75 330 1e75 76 303 1e7d 76 323 1e7f",
    "77 300 1e81 77 301 1e83 77 302 175 77 307 1e87 77 308 1e85 77 30a 1e98 77 323 1e89",
    "78 307 1e8b 78 308 1e8d 79 300 1ef3 79 301 fd 79 302 177 79 303 1ef9 79 304 233 79 307 1e8f",
    "79 308 ff 79 309 1ef7 79 30a 1e99 79 323 1ef5 7a 301 17a 7a 302 1e91 7a 307 17c 7a 30c 17e",
    "7a 323 1e93 7a 331 1e95 a8 300 1fed a8 301 385 a8 342 1fc1 c2 300 1ea6 c2 301 1ea4",
    "c2 303 1eaa c2 309 1ea8 c4 304 1de c5 301 1fa c6 301 1fc c6 304 1e2 c7 301 1e08 ca 300 1ec0",
    "ca 301 1ebe ca 303 1ec4 ca 309 1ec2 cf 301 1e2e d4 300 1ed2 d4 301 1ed0 d4 303 1ed6",
    "d4 309 1ed4 d5 301 1e4c d5 304 22c d5 308 1e4e d6 304 22a d8 301 1fe dc 300 1db dc 301 1d7",
    "dc 304 1d5 dc 30c 1d9 e2 300 1ea7 e2 301 1ea5 e2 303 1eab e2 309 1ea9 e4 304 1df e5 301 1fb",
    "e6 301 1fd e6 304 1e3 e7 301 1e09 ea 300 1ec1 ea 301 1ebf ea 303 1ec5 ea 309 1ec3",
    "ef 301 1e2f f4 300 1ed3 f4 301 1ed1 f4 303 1ed7 f4 309 1ed5 f5 301 1e4d f5 304 22d",
    "f5 308 1e4f f6 304 22b f8 301 1ff fc 300 1dc fc 301 1d8 fc 304 1d6 fc 30c 1da 102 300 1eb0",
    "102 301 1eae 102 303 1eb4 102 309 1eb2 103 300 1eb1 103 301 1eaf 103 303 1eb5 103 309 1eb3",
    "112 300 1e14 112 301 1e16 113 300 1e15 113 301 1e17 14c 300 1e50 14c 301 1e52 14d 300 1e51",
    "14d 301 1e53 15a 307 1e64 15b 307 1e65 160 307 1e66 161 307 1e67 168 301 1e78 169 301 1e79",
    "16a 308 1e7a 16b 308 1e7b 17f 307 1e9b 1a0 300 1edc 1a0 301 1eda 1a0 303 1ee0 1a0 309 1ede",
    "1a0 323 1ee2 1a1 300 1edd 1a1 301 1edb 1a1 303 1ee1 1a1 309 1edf 1a1 323 1ee3 1af 300 1eea",
    "1af 301 1ee8 1af 303 1eee 1af 309 1eec 1af 323 1ef0 1b0 300 1eeb 1b0 301 1ee9 1b0 303 1eef",
    "1b0 309 1eed 1b0 323 1ef1 1b7 30c 1ee 1ea 304 1ec 1eb 304 1ed 226 304 1e0 227 304 1e1",
    "228 306 1e1c 229 306 1e1d 22e 304 230 22f 304 231 292 30c 1ef 391 300 1fba 391 301 386",
    "391 304 1fb9 391 306 1fb8 391 313 1f08 391 314 1f09 391 345 1fbc 395 300 1fc8 395 301 388",
    "395 313 1f18 395 314 1f19 397 300 1fca 397 301 389 397 313 1f28 397 314 1f29 397 345 1fcc",
    "399 300 1fda 399 301 38a 399 304 1fd9 399 306 1fd8 399 308 3aa 399 313 1f38 399 314 1f39",
    "39f 300 1ff8 39f 301 38c 39f 313 1f48 39f 314 1f49 3a1 314 1fec 3a5 300 1fea 3a5 301 38e",
    "3a5 304 1fe9 3a5 306 1fe8 3a5 308 3ab 3a5 314 1f59 3a9 300 1ffa 3a9 301 38f 3a9 313 1f68",
    "3a9 314 1f69 3a9 345 1ffc 3ac 345 1fb4 3ae 345 1fc4 3b1 300 1f70 3b1 301 3ac 3b1 304 1fb1",
    "3b1 306 1fb0 3b1 313 1f00 3b1 314 1f01 3b1 342 1fb6 3b1 345 1fb3 3b5 300 1f72 3b5 301 3ad",
    "3b5 313 1f10 3b5 314 1f11 3b7 300 1f74 3b7 301 3ae 3b7 313 1f20 3b7 314 1f21 3b7 342 1fc6",
    "3b7 345 1fc3 3b9 300 1f76 3b9 301 3af 3b9 304 1fd1 3b9 306 1fd0 3b9 308 3ca 3b9 313 1f30",
    "3b9 314 1f31 3b9 342 1fd6 3bf 300 1f78 3bf 301 3cc 3bf 313 1f40 3bf 314 1f41 3c1 313 1fe4",
    "3c1 314 1fe5 3c5 300 1f7a 3c5 301 3cd 3c5 304 1fe1 3c5 306 1fe0 3c5 308 3cb 3c5 313 1f50",
    "3c5 314 1f51 3c5 342 1fe6 3c9 300 1f7c 3c9 301 3ce 3c9 313 1f60 3c9 314 1f61 3c9 342 1ff6",
    "3c9 345 1ff3 3ca 300 1fd2 3ca 301 390 3ca 342 1fd7 3cb 300 1fe2 3cb 301 3b0 3cb 342 1fe7",
    "3ce 345 1ff4 3d2 301 3d3 3d2 308 3d4 406 308 407 410 306 4d0 410 308 4d2 413 301 403",
    "415 300 400 415 306 4d6 415 308 401 416 306 4c1 416 308 4dc 417 308 4de 418 300 40d",
    "418 304 4e2 418 306 419 418 308 4e4 41a 301 40c 41e 308 4e6 423 304 4ee 423 306 40e",
    "423 308 4f0 423 30b 4f2 427 308 4f4 42b 308 4f8 42d 308 4ec 430 306 4d1 430 308 4d3",
    "433 301 453 435 300 450 435 306 4d7 435 308 451 436 306 4c2 436 308 4dd 437 308 4df",
    "438 300 45d 438 304 4e3 438 306 439 438 308 4e5 43a 301 45c 43e 308 4e7 443 304 4ef",
    "443 306 45e 443 308 4f1 443 30b 4f3 447 308 4f5 44b 308 4f9 44d 308 4ed 456 308 457",
    "474 30f 476 475 30f 477 4d8 308 4da 4d9 308 4db 4e8 308 4ea 4e9 308 4eb 627 653 622",
    "627 654 623 627 655 625 648 654 624 64a 654 626 6c1 654 6c2 6d2 654 6d3 6d5 654 6c0",
    "928 93c 929 930 93c 931 933 93c 934 9c7 9be 9cb 9c7 9d7 9cc b47 b3e b4b b47 b56 b48",
    "b47 b57 b4c b92 bd7 b94 bc6 bbe bca bc6 bd7 bcc bc7 bbe bcb c46 c56 c48 cbf cd5 cc0",
    "cc6 cc2 cca cc6 cd5 cc7 cc6 cd6 cc8 cca cd5 ccb d46 d3e d4a d46 d57 d4c d47 d3e d4b",
    "dd9 dca dda dd9 dcf ddc dd9 ddf dde ddc dca ddd 1025 102e 1026 1b05 1b35 1b06",
    "1b07 1b35 1b08 1b09 1b35 1b0a 1b0b 1b35 1b0c 1b0d 1b35 1b0e 1b11 1b35 1b12 1b3a 1b35 1b3b",
    "1b3c 1b35 1b3d 1b3e 1b35 1b40 1b3f 1b35 1b41 1b42 1b35 1b43 1e36 304 1e38 1e37 304 1e39",
    "1e5a 304 1e5c 1e5b 304 1e5d 1e62 307 1e68 1e63 307 1e69 1ea0 302 1eac 1ea0 306 1eb6",
    "1ea1 302 1ead 1ea1 306 1eb7 1eb8 302 1ec6 1eb9 302 1ec7 1ecc 302 1ed8 1ecd 302 1ed9",
    "1f00 300 1f02 1f00 301 1f04 1f00 342 1f06 1f00 345 1f80 1f01 300 1f03 1f01 301 1f05",
    "1f01 342 1f07 1f01 345 1f81 1f02 345 1f82 1f03 345 1f83 1f04 345 1f84 1f05 345 1f85",
    "1f06 345 1f86 1f07 345 1f87 1f08 300 1f0a 1f08 301 1f0c 1f08 342 1f0e 1f08 345 1f88",
    "1f09 300 1f0b 1f09 301 1f0d 1f09 342 1f0f 1f09 345 1f89 1f0a 345 1f8a 1f0b 345 1f8b",
    "1f0c 345 1f8c 1f0d 345 1f8d 1f0e 345 1f8e 1f0f 345 1f8f 1f10 300 1f12 1f10 301 1f14",
    "1f11 300 1f13 1f11 301 1f15 1f18 300 1f1a 1f18 301 1f1c 1f19 300 1f1b 1f19 301 1f1d",
    "1f20 300 1f22 1f20 301 1f24 1f20 342 1f26 1f20 345 1f90 1f21 300 1f23 1f21 301 1f25",
    "1f21 342 1f27 1f21 345 1f91 1f22 345 1f92 1f23 345 1f93 1f24 345 1f94 1f25 345 1f95",
    "1f26 345 1f96 1f27 345 1f97 1f28 300 1f2a 1f28 301 1f2c 1f28 342 1f2e 1f28 345 1f98",
    "1f29 300 1f2b 1f29 301 1f2d 1f29 342 1f2f 1f29 345 1f99 1f2a 345 1f9a 1f2b 345 1f9b",
    "1f2c 345 1f9c 1f2d 345 1f9d 1f2e 345 1f9e 1f2f 345 1f9f 1f30 300 1f32 1f30 301 1f34",
    "1f30 342 1f36 1f31 300 1f33 1f31 301 1f35 1f31 342 1f37 1f38 300 1f3a 1f38 301 1f3c",
    "1f38 342 1f3e 1f39 300 1f3b 1f39 301 1f3d 1f39 342 1f3f 1f40 300 1f42 1f40 301 1f44",
    "1f41 300 1f43 1f41 301 1f45 1f48 300 1f4a 1f48 301 1f4c 1f49 300 1f4b 1f49 301 1f4d",
    "1f50 300 1f52 1f50 301 1f54 1f50 342 1f56 1f51 300 1f53 1f51 301 1f55 1f51 342 1f57",
    "1f59 300 1f5b 1f59 301 1f5d 1f59 342 1f5f 1f60 300 1f62 1f60 301 1f64 1f60 342 1f66",
    "1f60 345 1fa0 1f61 300 1f63 1f61 301 1f65 1f61 342 1f67 1f61 345 1fa1 1f62 345 1fa2",
    "1f63 345 1fa3 1f64 345 1fa4 1f65 345 1fa5 1f66 345 1fa6 1f67 345 1fa7 1f68 300 1f6a",
    "1f68 301 1f6c 1f68 342 1f6e 1f68 345 1fa8 1f69 300 1f6b 1f69 301 1f6d 1f69 342 1f6f",
    "1f69 345 1fa9 1f6a 345 1faa 1f6b 345 1fab 1f6c 345 1fac 1f6d 345 1fad 1f6e 345 1fae",
    "1f6f 345 1faf 1f70 345 1fb2 1f74 345 1fc2 1f7c 345 1ff2 1fb6 345 1fb7 1fbf 300 1fcd",
    "1fbf 301 1fce 1fbf 342 1fcf 1fc6 345 1fc7 1ff6 345 1ff7 1ffe 300 1fdd 1ffe 301 1fde",
    "1ffe 342 1fdf 2190 338 219a 2192 338 219b 2194 338 21ae 21d0 338 21cd 21d2 338 21cf",
    "21d4 338 21ce 2203 338 2204 2208 338 2209 220b 338 220c 2223 338 2224 2225 338 2226",
    "223c 338 2241 2243 338 2244 2245 338 2247 2248 338 2249 224d 338 226d 2261 338 2262",
    "2264 338 2270 2265 338 2271 2272 338 2274 2273 338 2275 2276 338 2278 2277 338 2279",
    "227a 338 2280 227b 338 2281 227c 338 22e0 227d 338 22e1 2282 338 2284 2283 338 2285",
    "2286 338 2288 2287 338 2289 2291 338 22e2 2292 338 22e3 22a2 338 22ac 22a8 338 22ad",
    "22a9 338 22ae 22ab 338 22af 22b2 338 22ea 22b3 338 22eb 22b4 338 22ec 22b5 338 22ed",
    "3046 3099 3094 304b 3099 304c 304d 3099 304e 304f 3099 3050 3051 3099 3052 3053 3099 3054",
    "3055 3099 3056 3057 3099 3058 3059 3099 305a 305b 3099 305c 305d 3099 305e 305f 3099 3060",
    "3061 3099 3062 3064 3099 3065 3066 3099 3067 3068 3099 3069 306f 3099 3070 306f 309a 3071",
    "3072 3099 3073 3072 309a 3074 3075 3099 3076 3075 309a 3077 3078 3099 3079 3078 309a 307a",
    "307b 3099 307c 307b 309a 307d 309d 3099 309e 30a6 3099 30f4 30ab 3099 30ac 30ad 3099 30ae",
    "30af 3099 30b0 30b1 3099 30b2 30b3 3099 30b4 30b5 3099 30b6 30b7 3099 30b8 30b9 3099 30ba",
    "30bb 3099 30bc 30bd 3099 30be 30bf 3099 30c0 30c1 3099 30c2 30c4 3099 30c5 30c6 3099 30c7",
    "30c8 3099 30c9 30cf 3099 30d0 30cf 309a 30d1 30d2 3099 30d3 30d2 309a 30d4 30d5 3099 30d6",
    "30d5 309a 30d7 30d8 3099 30d9 30d8 309a 30da 30db 3099 30dc 30db 309a 30dd 30ef 3099 30f7",
    "30f0 3099 30f8 30f1 3099 30f9 30f2 3099 30fa 30fd 3099 30fe 11099 110ba 1109a",
    "1109b 110ba 1109c 110a5 110ba 110ab 11131 11127 1112e 11132 11127 1112f 11347 1133e 1134b",
    "11347 11357 1134c 114b9 114b0 114bc 114b9 114ba 114bb 114b9 114bd 114be 115b8 115af 115ba",
    "115b9 115af 115bb 11935 11930 11938"]

/-- The numbers of the classes of marks: the first mark, the last mark and their class. -/
def classNumbers : List String := [
    "300 314 e6 315 315 e8 316 319 dc 31a 31a e8 31b 31b d8 31c 320 dc 321 322 ca 323 326 dc",
    "327 328 ca 329 333 dc 334 338 1 339 33c dc 33d 344 e6 345 345 f0 346 346 e6 347 349 dc",
    "34a 34c e6 34d 34e dc 350 352 e6 353 356 dc 357 357 e6 358 358 e8 359 35a dc 35b 35b e6",
    "35c 35c e9 35d 35e ea 35f 35f e9 360 361 ea 362 362 e9 363 36f e6 483 487 e6 591 591 dc",
    "592 595 e6 596 596 dc 597 599 e6 59a 59a de 59b 59b dc 59c 5a1 e6 5a2 5a7 dc 5a8 5a9 e6",
    "5aa 5aa dc 5ab 5ac e6 5ad 5ad de 5ae 5ae e4 5af 5af e6 5b0 5b0 a 5b1 5b1 b 5b2 5b2 c",
    "5b3 5b3 d 5b4 5b4 e 5b5 5b5 f 5b6 5b6 10 5b7 5b7 11 5b8 5b8 12 5b9 5ba 13 5bb 5bb 14",
    "5bc 5bc 15 5bd 5bd 16 5bf 5bf 17 5c1 5c1 18 5c2 5c2 19 5c4 5c4 e6 5c5 5c5 dc 5c7 5c7 12",
    "610 617 e6 618 618 1e 619 619 1f 61a 61a 20 64b 64b 1b 64c 64c 1c 64d 64d 1d 64e 64e 1e",
    "64f 64f 1f 650 650 20 651 651 21 652 652 22 653 654 e6 655 656 dc 657 65b e6 65c 65c dc",
    "65d 65e e6 65f 65f dc 670 670 23 6d6 6dc e6 6df 6e2 e6 6e3 6e3 dc 6e4 6e4 e6 6e7 6e8 e6",
    "6ea 6ea dc 6eb 6ec e6 6ed 6ed dc 711 711 24 730 730 e6 731 731 dc 732 733 e6 734 734 dc",
    "735 736 e6 737 739 dc 73a 73a e6 73b 73c dc 73d 73d e6 73e 73e dc 73f 741 e6 742 742 dc",
    "743 743 e6 744 744 dc 745 745 e6 746 746 dc 747 747 e6 748 748 dc 749 74a e6 7eb 7f1 e6",
    "7f2 7f2 dc 7f3 7f3 e6 7fd 7fd dc 816 819 e6 81b 823 e6 825 827 e6 829 82d e6 859 85b dc",
    "897 897 e6 898 898 e6 899 89b dc 89c 89f e6 8ca 8ce e6 8cf 8d3 dc 8d4 8e1 e6 8e3 8e3 dc",
    "8e4 8e5 e6 8e6 8e6 dc 8e7 8e8 e6 8e9 8e9 dc 8ea 8ec e6 8ed 8ef dc 8f0 8f0 1b 8f1 8f1 1c",
    "8f2 8f2 1d 8f3 8f5 e6 8f6 8f6 dc 8f7 8f8 e6 8f9 8fa dc 8fb 8ff e6 93c 93c 7 94d 94d 9",
    "951 951 e6 952 952 dc 953 954 e6 9bc 9bc 7 9cd 9cd 9 9fe 9fe e6 a3c a3c 7 a4d a4d 9",
    "abc abc 7 acd acd 9 b3c b3c 7 b4d b4d 9 bcd bcd 9 c3c c3c 7 c4d c4d 9 c55 c55 54 c56 c56 5b",
    "cbc cbc 7 ccd ccd 9 d3b d3c 9 d4d d4d 9 dca dca 9 e38 e39 67 e3a e3a 9 e48 e4b 6b",
    "eb8 eb9 76 eba eba 9 ec8 ecb 7a f18 f19 dc f35 f35 dc f37 f37 dc f39 f39 d8 f71 f71 81",
    "f72 f72 82 f74 f74 84 f7a f7d 82 f80 f80 82 f82 f83 e6 f84 f84 9 f86 f87 e6 fc6 fc6 dc",
    "1037 1037 7 1039 103a 9 108d 108d dc 135d 135f e6 1714 1715 9 1734 1734 9 17d2 17d2 9",
    "17dd 17dd e6 18a9 18a9 e4 1939 1939 de 193a 193a e6 193b 193b dc 1a17 1a17 e6 1a18 1a18 dc",
    "1a60 1a60 9 1a75 1a7c e6 1a7f 1a7f dc 1ab0 1ab4 e6 1ab5 1aba dc 1abb 1abc e6 1abd 1abd dc",
    "1abf 1ac0 dc 1ac1 1ac2 e6 1ac3 1ac4 dc 1ac5 1ac9 e6 1aca 1aca dc 1acb 1ace e6 1b34 1b34 7",
    "1b44 1b44 9 1b6b 1b6b e6 1b6c 1b6c dc 1b6d 1b73 e6 1baa 1bab 9 1be6 1be6 7 1bf2 1bf3 9",
    "1c37 1c37 7 1cd0 1cd2 e6 1cd4 1cd4 1 1cd5 1cd9 dc 1cda 1cdb e6 1cdc 1cdf dc 1ce0 1ce0 e6",
    "1ce2 1ce8 1 1ced 1ced dc 1cf4 1cf4 e6 1cf8 1cf9 e6 1dc0 1dc1 e6 1dc2 1dc2 dc 1dc3 1dc9 e6",
    "1dca 1dca dc 1dcb 1dcc e6 1dcd 1dcd ea 1dce 1dce d6 1dcf 1dcf dc 1dd0 1dd0 ca 1dd1 1df5 e6",
    "1df6 1df6 e8 1df7 1df8 e4 1df9 1df9 dc 1dfa 1dfa da 1dfb 1dfb e6 1dfc 1dfc e9 1dfd 1dfd dc",
    "1dfe 1dfe e6 1dff 1dff dc 20d0 20d1 e6 20d2 20d3 1 20d4 20d7 e6 20d8 20da 1 20db 20dc e6",
    "20e1 20e1 e6 20e5 20e6 1 20e7 20e7 e6 20e8 20e8 dc 20e9 20e9 e6 20ea 20eb 1 20ec 20ef dc",
    "20f0 20f0 e6 2cef 2cf1 e6 2d7f 2d7f 9 2de0 2dff e6 302a 302a da 302b 302b e4 302c 302c e8",
    "302d 302d de 302e 302f e0 3099 309a 8 a66f a66f e6 a674 a67d e6 a69e a69f e6 a6f0 a6f1 e6",
    "a806 a806 9 a82c a82c 9 a8c4 a8c4 9 a8e0 a8f1 e6 a92b a92d dc a953 a953 9 a9b3 a9b3 7",
    "a9c0 a9c0 9 aab0 aab0 e6 aab2 aab3 e6 aab4 aab4 dc aab7 aab8 e6 aabe aabf e6 aac1 aac1 e6",
    "aaf6 aaf6 9 abed abed 9 fb1e fb1e 1a fe20 fe26 e6 fe27 fe2d dc fe2e fe2f e6 101fd 101fd dc",
    "102e0 102e0 dc 10376 1037a e6 10a0d 10a0d dc 10a0f 10a0f e6 10a38 10a38 e6 10a39 10a39 1",
    "10a3a 10a3a dc 10a3f 10a3f 9 10ae5 10ae5 e6 10ae6 10ae6 dc 10d24 10d27 e6 10d69 10d6d e6",
    "10eab 10eac e6 10efc 10efc dc 10efd 10eff dc 10f46 10f47 dc 10f48 10f4a e6 10f4b 10f4b dc",
    "10f4c 10f4c e6 10f4d 10f50 dc 10f82 10f82 e6 10f83 10f83 dc 10f84 10f84 e6 10f85 10f85 dc",
    "11046 11046 9 11070 11070 9 1107f 1107f 9 110b9 110b9 9 110ba 110ba 7 11100 11102 e6",
    "11133 11134 9 11173 11173 7 111c0 111c0 9 111ca 111ca 7 11235 11235 9 11236 11236 7",
    "112e9 112e9 7 112ea 112ea 9 1133b 1133c 7 1134d 1134d 9 11366 1136c e6 11370 11374 e6",
    "113ce 113d0 9 113e1 113e2 e6 11442 11442 9 11446 11446 7 1145e 1145e e6 114c2 114c2 9",
    "114c3 114c3 7 115bf 115bf 9 115c0 115c0 7 1163f 1163f 9 116b6 116b6 9 116b7 116b7 7",
    "1172b 1172b 9 11839 11839 9 1183a 1183a 7 1193d 1193e 9 11943 11943 7 119e0 119e0 9",
    "11a34 11a34 9 11a47 11a47 9 11a99 11a99 9 11c3f 11c3f 9 11d42 11d42 7 11d44 11d45 9",
    "11d97 11d97 9 11f41 11f42 9 1612f 1612f 9 16af0 16af4 1 16b30 16b36 e6 16ff0 16ff1 6",
    "1bc9e 1bc9e 1 1d165 1d166 d8 1d167 1d169 1 1d16d 1d16d e2 1d16e 1d172 d8 1d17b 1d182 dc",
    "1d185 1d189 e6 1d18a 1d18b dc 1d1aa 1d1ad e6 1d242 1d244 e6 1e000 1e006 e6 1e008 1e018 e6",
    "1e01b 1e021 e6 1e023 1e024 e6 1e026 1e02a e6 1e08f 1e08f e6 1e130 1e136 e6 1e2ae 1e2ae e6",
    "1e2ec 1e2ef e6 1e4ec 1e4ed e8 1e4ee 1e4ee dc 1e4ef 1e4ef e6 1e5ee 1e5ee e6 1e5ef 1e5ef dc",
    "1e8d0 1e8d6 dc 1e944 1e949 e6 1e94a 1e94a 7"]

/-- Groups numbers by three. -/
def triples : List Nat → List (Nat × Nat × Nat)
  | a :: b :: c :: rest => (a, b, c) :: triples rest
  | _ => []

/-- The composed characters with their parts. -/
def compositions : List (Nat × Nat × Nat) := triples (compositionNumbers.flatMap hexNumbers)

/-- The ranges of marks with their classes. -/
def classes : List (Nat × Nat × Nat) := triples (classNumbers.flatMap hexNumbers)

/-- The class by which marks on one base are ordered; a base has class zero. -/
def combiningClass (code : Nat) : Nat :=
  match classes.find? fun (first, last, _) => first ≤ code && code ≤ last with
  | some (_, _, mark) => mark
  | none => 0

/-- The code point composed of two others, if there is one. Korean syllables follow a formula. -/
def composed? (base mark : Nat) : Option Nat :=
  if 0x1100 ≤ base && base < 0x1113 && 0x1161 ≤ mark && mark < 0x1176 then
    some (0xac00 + ((base - 0x1100) * 21 + (mark - 0x1161)) * 28)
  else if 0xac00 ≤ base && base < 0xd7a4 && (base - 0xac00) % 28 == 0 &&
      0x11a7 < mark && mark < 0x11c3 then
    some (base + (mark - 0x11a7))
  else
    (compositions.find? fun (first, second, _) => first == base && second == mark).map (·.2.2)

/-- The parts of a code point, the base first, to a given depth. -/
def decomposed : Nat → Nat → List Nat
  | 0, code => [code]
  | depth + 1, code =>
      if 0xac00 ≤ code && code < 0xd7a4 then
        let index := code - 0xac00
        let base := [0x1100 + index / 588, 0x1161 + index % 588 / 28]
        if index % 28 == 0 then base else base ++ [0x11a7 + index % 28]
      else
        match compositions.find? (·.2.2 == code) with
        | some (base, mark, _) => decomposed depth base ++ [mark]
        | none => [code]

/-- Puts a code point behind the marks of lower or equal class that end the list. -/
def insertMark (mark : Nat) : List Nat → List Nat
  | [] => [mark]
  | last :: before =>
      if combiningClass mark != 0 && combiningClass mark < combiningClass last then
        last :: insertMark mark before
      else mark :: last :: before

/-- Orders the marks on each base by their classes. -/
def orderMarks (codes : List Nat) : List Nat :=
  (codes.foldl (fun ordered code => insertMark code ordered) []).reverse

/--
The state of composing a text: what is finished, in reverse; the base that may still grow; and the
code points that stand behind it, in reverse.
-/
structure Composing where
  finished : List Nat
  base : Option Nat
  behind : List Nat

/-- Takes one code point into a text under composition. -/
def Composing.take (state : Composing) (code : Nat) : Composing :=
  match state.base with
  | none =>
      if combiningClass code == 0 then { state with base := some code }
      else { state with finished := code :: state.finished }
  | some base =>
      let blocked := match state.behind with
        | [] => false
        | last :: _ => combiningClass last == 0 || combiningClass code ≤ combiningClass last
      match if blocked then none else composed? base code with
      | some whole => { state with base := some whole }
      | none =>
          if combiningClass code == 0 then
            { finished := state.behind ++ base :: state.finished, base := some code, behind := [] }
          else { state with behind := code :: state.behind }

/-- The code points of a text under composition, in order. -/
def Composing.codes (state : Composing) : List Nat :=
  (state.behind ++ state.base.toList ++ state.finished).reverse

/-- The composed normal form of a text whose characters are each in that form already. -/
def normalize (s : List Char) : List Char :=
  if s.all (·.toNat < 0x300) then s
  else
    let parts := orderMarks (s.flatMap fun c => decomposed 4 c.toNat)
    (parts.foldl Composing.take ⟨[], none, []⟩).codes.map Char.ofNat

end Tagboard.Domain
