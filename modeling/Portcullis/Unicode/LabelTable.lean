import Portcullis.Unicode.Table

/-!
# Properties that restrict the labels of host names: data

Of the characters that are valid in host names.
-/

namespace Portcullis.Unicode

/-- Combining marks. A row is `first.count`. -/
def markRows : String :=
  "300.70 483.7 591.2d 5bf.1 5c1.2 5c4.2 5c7.1 610.b 64b.15 670.1 6d6.7 6df.6 6e7.2 6ea.4 711.1 730.1b 7a6.b 7eb.9
  7fd.1 816.4 81b.9 825.3 829.5 859.3 897.9 8ca.3a 93a.3 93e.12 951.7 962.2 981.3 9bc.1 9be.10 9d7.1 9e2.2 9fe.6
  a3c.16 a70.2 a75.1 a81.3 abc.1 abe.10 ae2.2 afa.a b3c.1 b3e.1a b62.2 b82.1 bbe.10 bd7.1 c00.5 c3c.1 c3e.19 c62.2
  c81.3 cbc.1 cbe.19 ce2.2 cf3.11 d3b.2 d3e.10 d57.1 d62.2 d81.3 dca.16 df2.2 e31.1 e34.7 e47.8 eb1.1 eb4.9 ec8.7
  f18.2 f35.1 f37.1 f39.1 f3e.2 f71.14 f86.2 f8d.30 fc6.1 102b.14 1056.4 105e.3 1062.3 1067.7 1071.4 1082.c 108f.1
  109a.4 135d.3 1712.4 1732.3 1752.2 1772.2 17b6.1e 17dd.1 1885.2 18a9.1 1920.1c 1a17.5 1a55.2b 1ab0.55 1b34.11 1b6b.9
  1b80.3 1ba1.d 1be6.e 1c24.14 1cd0.3 1cd4.15 1ced.1 1cf4.1 1cf7.3 1dc0.40 20d0.21 2cef.3 2d7f.1 2de0.20 302a.6 3099.2
  a66f.4 a674.a a69e.2 a6f0.2 a802.1 a806.1 a80b.1 a823.5 a82c.1 a880.2 a8b4.12 a8e0.12 a8ff.1 a926.8 a947.d a980.4
  a9b3.e a9e5.1 aa29.e aa43.1 aa4c.2 aa7b.3 aab0.1 aab2.3 aab7.2 aabe.2 aac1.1 aaeb.5 aaf5.2 abe3.8 abec.2 fb1e.1
  fe20.10 101fd.1 102e0.1 10376.5 10a01.f 10a38.8 10ae5.2 10d24.4 10d69.5 10eab.2 10efa.6 10f46.b 10f82.4 11000.3
  11038.f 11070.1 11073.2 1107f.4 110b0.b 110c2.1 11100.3 11127.e 11145.2 11173.1 11180.3 111b3.e 111c9.4 111ce.2
  1122c.c 1123e.1 11241.1 112df.c 11300.4 1133b.2 1133e.10 11357.1 11362.13 113b8.19 113d2.1 113e1.2 11435.12 1145e.1
  114b0.14 115af.12 115dc.2 11630.11 116ab.d 1171d.f 1182c.f 11930.f 11940.1 11942.2 119d1.10 119e4.1 11a01.a 11a33.7
  11a3b.4 11a47.1 11a51.b 11a8a.10 11b60.8 11c2f.11 11c92.25 11d31.15 11d47.1 11d8a.e 11ef3.4 11f00.2 11f03.1 11f34.f
  11f5a.1 13440.1 13447.f 1611e.12 16af0.5 16b30.7 16f4f.1 16f51.42 16fe4.e 1bc9d.2 1cf00.47 1d165.5 1d16d.16 1d185.7
  1d1aa.4 1d242.3 1da00.37 1da3b.32 1da75.1 1da84.1 1da9b.15 1e000.90 1e130.7 1e2ae.1 1e2ec.4 1e4ec.4 1e5ee.2 1e6e3.1
  1e6e6.1 1e6ee.2 1e6f5.1 1e8d0.7 1e944.7"

/-- Joining types. A row is `first.count.type`, with the types D, R, L, T and C as 1 to 5. -/
def joiningRows : String :=
  "ad.1.4 300.70.4 483.7.4 591.2d.4 5bf.1.4 5c1.2.4 5c4.2.4 5c7.1.4 610.b.4 61c.1.4 620.1.1 622.4.2 626.1.1 627.1.2
  628.1.1 629.1.2 62a.5.1 62f.4.2 633.d.1 640.1.5 641.7.1 648.1.2 649.2.1 64b.15.4 66e.2.1 670.1.4 671.3.2 675.3.2
  678.10.1 688.12.2 69a.26.1 6c0.1.2 6c1.2.1 6c3.9.2 6cc.1.1 6cd.1.2 6ce.1.1 6cf.1.2 6d0.2.1 6d2.2.2 6d5.1.2 6d6.7.4
  6df.6.4 6e7.2.4 6ea.4.4 6ee.2.2 6fa.3.1 6ff.1.1 70f.1.4 710.1.2 711.1.4 712.3.1 715.5.2 71a.4.1 71e.1.2 71f.9.1
  728.1.2 729.1.1 72a.1.2 72b.1.1 72c.1.2 72d.2.1 72f.1.2 730.1b.4 74d.1.2 74e.b.1 759.3.2 75c.f.1 76b.2.2 76d.4.1
  771.1.2 772.1.1 773.2.2 775.3.1 778.2.2 77a.6.1 7a6.b.4 7ca.21.1 7eb.9.4 7fa.1.5 7fd.1.4 816.4.4 81b.9.4 825.3.4
  829.5.4 840.1.2 841.5.1 846.2.2 848.1.1 849.1.2 84a.a.1 854.1.2 855.1.1 856.3.2 859.3.4 860.1.1 862.4.1 867.1.2
  868.1.1 869.2.2 870.13.2 883.3.5 886.1.1 889.5.1 88e.1.2 88f.1.1 897.9.4 8a0.a.1 8aa.3.2 8ae.1.2 8af.2.1 8b1.2.2
  8b3.6.1 8b9.1.2 8ba.f.1 8ca.18.4 8e3.20.4 93a.1.4 93c.1.4 941.8.4 94d.1.4 951.7.4 962.2.4 981.1.4 9bc.1.4 9c1.4.4
  9cd.1.4 9e2.2.4 9fe.1.4 a01.2.4 a3c.1.4 a41.2.4 a47.2.4 a4b.3.4 a51.1.4 a70.2.4 a75.1.4 a81.2.4 abc.1.4 ac1.5.4
  ac7.2.4 acd.1.4 ae2.2.4 afa.6.4 b01.1.4 b3c.1.4 b3f.1.4 b41.4.4 b4d.1.4 b55.2.4 b62.2.4 b82.1.4 bc0.1.4 bcd.1.4
  c00.1.4 c04.1.4 c3c.1.4 c3e.3.4 c46.3.4 c4a.4.4 c55.2.4 c62.2.4 c81.1.4 cbc.1.4 cbf.1.4 cc6.1.4 ccc.2.4 ce2.2.4
  d00.2.4 d3b.2.4 d41.4.4 d4d.1.4 d62.2.4 d81.1.4 dca.1.4 dd2.3.4 dd6.1.4 e31.1.4 e34.7.4 e47.8.4 eb1.1.4 eb4.9.4
  ec8.7.4 f18.2.4 f35.1.4 f37.1.4 f39.1.4 f71.e.4 f80.5.4 f86.2.4 f8d.b.4 f99.24.4 fc6.1.4 102d.4.4 1032.6.4 1039.2.4
  103d.2.4 1058.2.4 105e.3.4 1071.4.4 1082.1.4 1085.2.4 108d.1.4 109d.1.4 135d.3.4 1712.3.4 1732.2.4 1752.2.4 1772.2.4
  17b4.2.4 17b7.7.4 17c6.1.4 17c9.b.4 17dd.1.4 1807.1.1 180a.1.5 180b.3.4 180f.1.4 1820.59.1 1885.2.4 1887.22.1
  18a9.1.4 18aa.1.1 1920.3.4 1927.2.4 1932.1.4 1939.3.4 1a17.2.4 1a1b.1.4 1a56.1.4 1a58.7.4 1a60.1.4 1a62.1.4 1a65.8.4
  1a73.a.4 1a7f.1.4 1ab0.2e.4 1ae0.c.4 1b00.4.4 1b34.1.4 1b36.5.4 1b3c.1.4 1b42.1.4 1b6b.9.4 1b80.2.4 1ba2.4.4
  1ba8.2.4 1bab.3.4 1be6.1.4 1be8.2.4 1bed.1.4 1bef.3.4 1c2c.8.4 1c36.2.4 1cd0.3.4 1cd4.d.4 1ce2.7.4 1ced.1.4 1cf4.1.4
  1cf8.2.4 1dc0.40.4 200b.1.4 200d.1.5 200e.2.4 202a.5.4 2060.5.4 206a.6.4 20d0.21.4 2cef.3.4 2d7f.1.4 2de0.20.4
  302a.4.4 3099.2.4 a66f.4.4 a674.a.4 a69e.2.4 a6f0.2.4 a802.1.4 a806.1.4 a80b.1.4 a825.2.4 a82c.1.4 a840.32.1
  a872.1.3 a8c4.2.4 a8e0.12.4 a8ff.1.4 a926.8.4 a947.b.4 a980.3.4 a9b3.1.4 a9b6.4.4 a9bc.2.4 a9e5.1.4 aa29.6.4
  aa31.2.4 aa35.2.4 aa43.1.4 aa4c.1.4 aa7c.1.4 aab0.1.4 aab2.3.4 aab7.2.4 aabe.2.4 aac1.1.4 aaec.2.4 aaf6.1.4 abe5.1.4
  abe8.1.4 abed.1.4 fb1e.1.4 fe00.10.4 fe20.10.4 feff.1.4 fff9.3.4 101fd.1.4 102e0.1.4 10376.5.4 10a01.3.4 10a05.2.4
  10a0c.4.4 10a38.3.4 10a3f.1.4 10ac0.5.1 10ac5.1.2 10ac7.1.2 10ac9.2.2 10acd.1.3 10ace.5.2 10ad3.4.1 10ad7.1.3
  10ad8.5.1 10add.1.2 10ade.3.1 10ae1.1.2 10ae4.1.2 10ae5.2.4 10aeb.4.1 10aef.1.2 10b80.1.1 10b81.1.2 10b82.1.1
  10b83.3.2 10b86.3.1 10b89.1.2 10b8a.2.1 10b8c.1.2 10b8d.1.1 10b8e.2.2 10b90.1.1 10b91.1.2 10ba9.4.2 10bad.2.1
  10d00.1.3 10d01.21.1 10d22.1.2 10d23.1.1 10d24.4.4 10d69.5.4 10eab.2.4 10ec2.1.2 10ec3.2.1 10ec6.2.1 10efa.6.4
  10f30.3.1 10f33.1.2 10f34.11.1 10f46.b.4 10f51.3.1 10f54.1.2 10f70.4.1 10f74.2.2 10f76.c.1 10f82.4.4 10fb0.1.1
  10fb2.2.1 10fb4.3.2 10fb8.1.1 10fb9.2.2 10fbb.2.1 10fbd.1.2 10fbe.2.1 10fc1.1.1 10fc2.2.2 10fc4.1.1 10fc9.1.2
  10fca.1.1 10fcb.1.3 11001.1.4 11038.f.4 11070.1.4 11073.2.4 1107f.3.4 110b3.4.4 110b9.2.4 110c2.1.4 11100.3.4
  11127.5.4 1112d.8.4 11173.1.4 11180.2.4 111b6.9.4 111c9.4.4 111cf.1.4 1122f.3.4 11234.1.4 11236.2.4 1123e.1.4
  11241.1.4 112df.1.4 112e3.8.4 11300.2.4 1133b.2.4 11340.1.4 11366.7.4 11370.5.4 113bb.6.4 113ce.1.4 113d0.1.4
  113d2.1.4 113e1.2.4 11438.8.4 11442.3.4 11446.1.4 1145e.1.4 114b3.6.4 114ba.1.4 114bf.2.4 114c2.2.4 115b2.4.4
  115bc.2.4 115bf.2.4 115dc.2.4 11633.8.4 1163d.1.4 1163f.2.4 116ab.1.4 116ad.1.4 116b0.6.4 116b7.1.4 1171d.1.4
  1171f.1.4 11722.4.4 11727.5.4 1182f.9.4 11839.2.4 1193b.2.4 1193e.1.4 11943.1.4 119d4.4.4 119da.2.4 119e0.1.4
  11a01.a.4 11a33.6.4 11a3b.4.4 11a47.1.4 11a51.6.4 11a59.3.4 11a8a.d.4 11a98.2.4 11b60.1.4 11b62.3.4 11b66.1.4
  11c30.7.4 11c38.6.4 11c3f.1.4 11c92.16.4 11caa.7.4 11cb2.2.4 11cb5.2.4 11d31.6.4 11d3a.1.4 11d3c.2.4 11d3f.7.4
  11d47.1.4 11d90.2.4 11d95.1.4 11d97.1.4 11ef3.2.4 11f00.2.4 11f36.5.4 11f40.1.4 11f42.1.4 11f5a.1.4 13430.11.4
  13447.f.4 1611e.c.4 1612d.3.4 16af0.5.4 16b30.7.4 16f4f.1.4 16f8f.4.4 16fe4.1.4 1bc9d.2.4 1bca0.4.4 1cf00.2e.4
  1cf30.17.4 1d167.3.4 1d173.10.4 1d185.7.4 1d1aa.4.4 1d242.3.4 1da00.37.4 1da3b.32.4 1da75.1.4 1da84.1.4 1da9b.5.4
  1daa1.f.4 1e000.7.4 1e008.11.4 1e01b.7.4 1e023.2.4 1e026.5.4 1e08f.1.4 1e130.7.4 1e2ae.1.4 1e2ec.4.4 1e4ec.4.4
  1e5ee.2.4 1e6e3.1.4 1e6e6.1.4 1e6ee.2.4 1e6f5.1.4 1e8d0.7.4 1e900.44.1 1e944.8.4 e0001.1.4 e0020.60.4 e0100.f0.4"

/-- Bidirectional classes other than L. A row is `first.count.class`, with the classes R, AL, AN, EN, ES, CS, ET, ON, BN
and NSM as 1 to a, and b for any other. -/
def bidiRows : String :=
  "0.9.9 9.5.b e.e.9 1c.5.b 21.2.8 23.3.7 26.5.8 2b.1.5 2c.1.6 2d.1.5 2e.2.6 30.a.4 3a.1.6 3b.26.8 7b.4.8 7f.1.9 a1.1.8
  a2.4.7 a6.9.8 b0.2.7 b6.22.8 f7.1.8 2b9.2.8 2c2.e.8 2d2.1c.8 2ef.11.8 300.70.a 375.1.8 3f6.1.8 483.7.a 58a.5.8
  58f.1.7 591.2d.a 5be.1.1 5bf.1.a 5c0.1.1 5c1.2.a 5c3.1.1 5c4.2.a 5c6.1.1 5c7.1.a 5d0.25.1 606.2.8 608.1.2 609.2.7
  60b.1.2 60c.1.6 60d.1.2 60e.2.8 610.b.a 61b.30.2 64b.15.a 660.a.3 66a.1.7 66b.2.3 66d.3.2 670.1.a 671.65.2 6d6.7.a
  6de.1.8 6df.6.a 6e5.2.2 6e7.2.a 6e9.1.8 6ea.4.a 6ee.2.2 6f0.a.4 6fa.17.2 711.1.a 712.1e.2 730.1b.a 74d.59.2 7a6.b.a
  7b1.1.2 7c0.2b.1 7eb.9.a 7f4.2.1 7f6.4.8 7fa.1.1 7fd.1.a 7fe.18.1 816.4.a 81a.1.1 81b.9.a 824.1.1 825.3.a 828.1.1
  829.5.a 830.29.1 859.3.a 85e.1.1 860.2f.2 897.9.a 8a0.2a.2 8ca.39.a 93a.1.a 93c.1.a 941.8.a 94d.1.a 951.7.a 962.2.a
  981.1.a 9bc.1.a 9c1.4.a 9cd.1.a 9e2.2.a 9f2.2.7 9fb.1.7 9fe.5.a a3c.1.a a41.11.a a70.2.a a75.1.a a81.2.a abc.1.a
  ac1.8.a acd.1.a ae2.2.a af1.1.7 afa.8.a b3c.1.a b3f.1.a b41.4.a b4d.a.a b62.2.a b82.1.a bc0.1.a bcd.1.a bf3.6.8
  bf9.1.7 bfa.1.8 c00.1.a c04.1.a c3c.1.a c3e.3.a c46.11.a c62.2.a c78.7.8 c81.1.a cbc.1.a ccc.2.a ce2.2.a d00.2.a
  d3b.2.a d41.4.a d4d.1.a d62.2.a d81.1.a dca.1.a dd2.5.a e31.1.a e34.7.a e3f.1.7 e47.8.a eb1.1.a eb4.9.a ec8.7.a
  f18.2.a f35.1.a f37.1.a f39.1.a f3a.4.8 f71.e.a f80.5.a f86.2.a f8d.30.a fc6.1.a 102d.4.a 1032.6.a 1039.2.a 103d.2.a
  1058.2.a 105e.3.a 1071.4.a 1082.1.a 1085.2.a 108d.1.a 109d.1.a 135d.3.a 1390.a.8 1400.1.8 169b.2.8 1712.3.a 1732.2.a
  1752.2.a 1772.2.a 17b7.7.a 17c6.1.a 17c9.b.a 17db.1.7 17dd.1.a 17f0.1b.8 1885.2.a 18a9.1.a 1920.3.a 1927.2.a
  1932.1.a 1939.3.a 1940.6.8 19de.22.8 1a17.2.a 1a1b.1.a 1a56.1.a 1a58.9.a 1a62.1.a 1a65.8.a 1a73.d.a 1ab0.54.a
  1b34.1.a 1b36.5.a 1b3c.1.a 1b42.1.a 1b6b.9.a 1b80.2.a 1ba2.4.a 1ba8.2.a 1bab.3.a 1be6.1.a 1be8.2.a 1bed.1.a 1bef.3.a
  1c2c.8.a 1c36.2.a 1cd0.3.a 1cd4.d.a 1ce2.7.a 1ced.1.a 1cf4.1.a 1cf8.2.a 1dc0.40.a 200c.2.9 2010.18.8 2030.3.7
  2035.f.8 2044.1.6 2045.1a.8 20a0.21.7 20d0.21.a 2104.26.8 212e.1.7 213a.14.8 218a.88.8 2212.1.5 2213.1.7 2214.122.8
  237b.1a.8 2396.316.8 26ad.153.8 2900.300.8 2ce5.6.8 2cef.3.a 2cf9.7.8 2d7f.1.a 2de0.20.a 2e00.205.8 3008.19.8
  302a.4.a 3030.1.8 3037.1.8 303d.3.8 3099.2.a 30a0.1.8 30fb.1.8 31c0.24.8 4dc0.40.8 a490.37.8 a60d.3.8 a66f.4.a
  a673.1.8 a674.a.a a67e.2.8 a69e.2.a a6f0.2.a a700.22.8 a788.1.8 a802.1.a a806.1.a a80b.1.a a825.2.a a828.4.8
  a82c.1.a a838.2.7 a874.4.8 a8c4.2.a a8e0.12.a a8ff.1.a a926.8.a a947.b.a a980.3.a a9b3.1.a a9b6.4.a a9bc.2.a
  a9e5.1.a aa29.6.a aa31.2.a aa35.2.a aa43.1.a aa4c.1.a aa7c.1.a aab0.1.a aab2.3.a aab7.2.a aabe.2.a aac1.1.a aaec.2.a
  aaf6.1.a ab6a.2.8 abe5.1.a abe8.1.a abed.1.a fb1e.1.a fbb2.11.2 fd3e.c2.8 fe20.10.a fe45.2.8 fe73.1.2 10101.1.8
  10140.4d.8 10190.11.8 101fd.1.a 102e0.1.a 102e1.1b.4 10376.5.a 10800.11c.1 1091f.1.8 10920.e1.1 10a01.f.a 10a10.26.1
  10a38.8.a 10a40.a5.1 10ae5.2.a 10aeb.4b.1 10b39.7.8 10b40.1c0.1 10d00.24.2 10d24.4.a 10d30.20.3 10d69.5.a
  10d6e.111.3 10e80.2a.1 10eab.2.a 10ead.5.1 10efa.6.a 10f00.28.1 10f30.16.2 10f46.b.a 10f51.9.2 10f70.12.1 10f82.4.a
  10f86.71.1 11001.1.a 11038.f.a 11052.14.8 11070.1.a 11073.2.a 1107f.3.a 110b3.4.a 110b9.2.a 110c2.1.a 11100.3.a
  11127.5.a 1112d.8.a 11173.1.a 11180.2.a 111b6.9.a 111c9.4.a 111cf.1.a 1122f.3.a 11234.1.a 11236.2.a 1123e.1.a
  11241.1.a 112df.1.a 112e3.8.a 11300.2.a 1133b.2.a 11340.1.a 11366.f.a 113bb.6.a 113ce.1.a 113d0.1.a 113d2.1.a
  113e1.2.a 11438.8.a 11442.3.a 11446.1.a 1145e.1.a 114b3.6.a 114ba.1.a 114bf.2.a 114c2.2.a 115b2.4.a 115bc.2.a
  115bf.2.a 115dc.2.a 11633.8.a 1163d.1.a 1163f.2.a 11660.d.8 116ab.1.a 116ad.1.a 116b0.6.a 116b7.1.a 1171d.3.a
  11722.4.a 11727.5.a 1182f.9.a 11839.2.a 1193b.2.a 1193e.1.a 11943.1.a 119d4.8.a 119e0.1.a 11a01.6.a 11a09.2.a
  11a33.6.a 11a3b.4.a 11a47.1.a 11a51.6.a 11a59.3.a 11a8a.d.a 11a98.2.a 11b60.1.a 11b62.3.a 11b66.1.a 11c30.e.a
  11c92.16.a 11caa.7.a 11cb2.2.a 11cb5.2.a 11d31.15.a 11d47.1.a 11d90.2.a 11d95.1.a 11d97.1.a 11ef3.2.a 11f00.2.a
  11f36.5.a 11f40.1.a 11f42.1.a 11f5a.1.a 11fd5.8.8 11fdd.4.7 11fe1.11.8 13440.1.a 13447.f.a 1611e.c.a 1612d.3.a
  16af0.5.a 16b30.7.a 16f4f.1.a 16f8f.4.a 16fe2.1.8 16fe4.1.a 1bc9d.2.a 1cf00.47.a 1d167.3.a 1d17b.8.a 1d185.7.a
  1d1aa.4.a 1d1e9.59.8 1d242.3.a 1d245.1.8 1d300.57.8 1da00.37.a 1da3b.32.a 1da75.1.a 1da84.1.a 1da9b.15.a 1e000.90.a
  1e130.7.a 1e2ae.1.a 1e2ec.4.a 1e2ff.1.7 1e4ec.4.a 1e5ee.2.a 1e6e3.1.a 1e6e6.1.a 1e6ee.2.a 1e6f5.1.a 1e800.d0.1
  1e8d0.7.a 1e922.22.1 1e944.7.a 1e94b.15.1 1ec71.cd.2 1eef0.240.8 1f16d.3.8 1f1ad.1.8 1f260.96b.8"

end Portcullis.Unicode
