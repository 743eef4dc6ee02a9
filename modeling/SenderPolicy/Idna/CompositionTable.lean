import SenderPolicy.Idna.Table

/-!
# Table of composed characters

The characters that are written as one but also as two, and the order of the marks that may stand after a
letter.
-/

namespace SenderPolicy.Idna

/-- The composed characters that a name may hold, each before its two parts. A part may itself be composed, but
then its own parts are not. -/
def composites : List (List Nat) :=
  Table.entries
    [0x0000e0_000061_000300_000000_0000e1_000061_000301_000000_0000e2_000061_000302,
      0x0000e3_000061_000303_000000_0000e4_000061_000308_000000_0000e5_000061_00030a,
      0x0000e7_000063_000327_000000_0000e8_000065_000300_000000_0000e9_000065_000301,
      0x0000ea_000065_000302_000000_0000eb_000065_000308_000000_0000ec_000069_000300,
      0x0000ed_000069_000301_000000_0000ee_000069_000302_000000_0000ef_000069_000308,
      0x0000f1_00006e_000303_000000_0000f2_00006f_000300_000000_0000f3_00006f_000301,
      0x0000f4_00006f_000302_000000_0000f5_00006f_000303_000000_0000f6_00006f_000308,
      0x0000f9_000075_000300_000000_0000fa_000075_000301_000000_0000fb_000075_000302,
      0x0000fc_000075_000308_000000_0000fd_000079_000301_000000_0000ff_000079_000308,
      0x000101_000061_000304_000000_000103_000061_000306_000000_000105_000061_000328,
      0x000107_000063_000301_000000_000109_000063_000302_000000_00010b_000063_000307,
      0x00010d_000063_00030c_000000_00010f_000064_00030c_000000_000113_000065_000304,
      0x000115_000065_000306_000000_000117_000065_000307_000000_000119_000065_000328,
      0x00011b_000065_00030c_000000_00011d_000067_000302_000000_00011f_000067_000306,
      0x000121_000067_000307_000000_000123_000067_000327_000000_000125_000068_000302,
      0x000129_000069_000303_000000_00012b_000069_000304_000000_00012d_000069_000306,
      0x00012f_000069_000328_000000_000135_00006a_000302_000000_000137_00006b_000327,
      0x00013a_00006c_000301_000000_00013c_00006c_000327_000000_00013e_00006c_00030c,
      0x000144_00006e_000301_000000_000146_00006e_000327_000000_000148_00006e_00030c,
      0x00014d_00006f_000304_000000_00014f_00006f_000306_000000_000151_00006f_00030b,
      0x000155_000072_000301_000000_000157_000072_000327_000000_000159_000072_00030c,
      0x00015b_000073_000301_000000_00015d_000073_000302_000000_00015f_000073_000327,
      0x000161_000073_00030c_000000_000163_000074_000327_000000_000165_000074_00030c,
      0x000169_000075_000303_000000_00016b_000075_000304_000000_00016d_000075_000306,
      0x00016f_000075_00030a_000000_000171_000075_00030b_000000_000173_000075_000328,
      0x000175_000077_000302_000000_000177_000079_000302_000000_00017a_00007a_000301,
      0x00017c_00007a_000307_000000_00017e_00007a_00030c_000000_0001a1_00006f_00031b,
      0x0001b0_000075_00031b_000000_0001ce_000061_00030c_000000_0001d0_000069_00030c,
      0x0001d2_00006f_00030c_000000_0001d4_000075_00030c_000000_0001d6_0000fc_000304,
      0x0001d8_0000fc_000301_000000_0001da_0000fc_00030c_000000_0001dc_0000fc_000300,
      0x0001df_0000e4_000304_000000_0001e1_000227_000304_000000_0001e3_0000e6_000304,
      0x0001e7_000067_00030c_000000_0001e9_00006b_00030c_000000_0001eb_00006f_000328,
      0x0001ed_0001eb_000304_000000_0001ef_000292_00030c_000000_0001f0_00006a_00030c,
      0x0001f5_000067_000301_000000_0001f9_00006e_000300_000000_0001fb_0000e5_000301,
      0x0001fd_0000e6_000301_000000_0001ff_0000f8_000301_000000_000201_000061_00030f,
      0x000203_000061_000311_000000_000205_000065_00030f_000000_000207_000065_000311,
      0x000209_000069_00030f_000000_00020b_000069_000311_000000_00020d_00006f_00030f,
      0x00020f_00006f_000311_000000_000211_000072_00030f_000000_000213_000072_000311,
      0x000215_000075_00030f_000000_000217_000075_000311_000000_000219_000073_000326,
      0x00021b_000074_000326_000000_00021f_000068_00030c_000000_000227_000061_000307,
      0x000229_000065_000327_000000_00022b_0000f6_000304_000000_00022d_0000f5_000304,
      0x00022f_00006f_000307_000000_000231_00022f_000304_000000_000233_000079_000304,
      0x000390_0003ca_000301_000000_0003ac_0003b1_000301_000000_0003ad_0003b5_000301,
      0x0003ae_0003b7_000301_000000_0003af_0003b9_000301_000000_0003b0_0003cb_000301,
      0x0003ca_0003b9_000308_000000_0003cb_0003c5_000308_000000_0003cc_0003bf_000301,
      0x0003cd_0003c5_000301_000000_0003ce_0003c9_000301_000000_000439_000438_000306,
      0x000450_000435_000300_000000_000451_000435_000308_000000_000453_000433_000301,
      0x000457_000456_000308_000000_00045c_00043a_000301_000000_00045d_000438_000300,
      0x00045e_000443_000306_000000_000477_000475_00030f_000000_0004c2_000436_000306,
      0x0004d1_000430_000306_000000_0004d3_000430_000308_000000_0004d7_000435_000306,
      0x0004db_0004d9_000308_000000_0004dd_000436_000308_000000_0004df_000437_000308,
      0x0004e3_000438_000304_000000_0004e5_000438_000308_000000_0004e7_00043e_000308,
      0x0004eb_0004e9_000308_000000_0004ed_00044d_000308_000000_0004ef_000443_000304,
      0x0004f1_000443_000308_000000_0004f3_000443_00030b_000000_0004f5_000447_000308,
      0x0004f9_00044b_000308_000000_000622_000627_000653_000000_000623_000627_000654,
      0x000624_000648_000654_000000_000625_000627_000655_000000_000626_00064a_000654,
      0x0006c0_0006d5_000654_000000_0006c2_0006c1_000654_000000_0006d3_0006d2_000654,
      0x000929_000928_00093c_000000_000931_000930_00093c_000000_000934_000933_00093c,
      0x0009cb_0009c7_0009be_000000_0009cc_0009c7_0009d7_000000_000b48_000b47_000b56,
      0x000b4b_000b47_000b3e_000000_000b4c_000b47_000b57_000000_000b94_000b92_000bd7,
      0x000bca_000bc6_000bbe_000000_000bcb_000bc7_000bbe_000000_000bcc_000bc6_000bd7,
      0x000c48_000c46_000c56_000000_000cc0_000cbf_000cd5_000000_000cc7_000cc6_000cd5,
      0x000cc8_000cc6_000cd6_000000_000cca_000cc6_000cc2_000000_000ccb_000cca_000cd5,
      0x000d4a_000d46_000d3e_000000_000d4b_000d47_000d3e_000000_000d4c_000d46_000d57,
      0x000dda_000dd9_000dca_000000_000ddc_000dd9_000dcf_000000_000ddd_000ddc_000dca,
      0x000dde_000dd9_000ddf_000000_001026_001025_00102e_000000_001b06_001b05_001b35,
      0x001b08_001b07_001b35_000000_001b0a_001b09_001b35_000000_001b0c_001b0b_001b35,
      0x001b0e_001b0d_001b35_000000_001b12_001b11_001b35_000000_001b3b_001b3a_001b35,
      0x001b3d_001b3c_001b35_000000_001b40_001b3e_001b35_000000_001b41_001b3f_001b35,
      0x001b43_001b42_001b35_000000_001e01_000061_000325_000000_001e03_000062_000307,
      0x001e05_000062_000323_000000_001e07_000062_000331_000000_001e09_0000e7_000301,
      0x001e0b_000064_000307_000000_001e0d_000064_000323_000000_001e0f_000064_000331,
      0x001e11_000064_000327_000000_001e13_000064_00032d_000000_001e15_000113_000300,
      0x001e17_000113_000301_000000_001e19_000065_00032d_000000_001e1b_000065_000330,
      0x001e1d_000229_000306_000000_001e1f_000066_000307_000000_001e21_000067_000304,
      0x001e23_000068_000307_000000_001e25_000068_000323_000000_001e27_000068_000308,
      0x001e29_000068_000327_000000_001e2b_000068_00032e_000000_001e2d_000069_000330,
      0x001e2f_0000ef_000301_000000_001e31_00006b_000301_000000_001e33_00006b_000323,
      0x001e35_00006b_000331_000000_001e37_00006c_000323_000000_001e39_001e37_000304,
      0x001e3b_00006c_000331_000000_001e3d_00006c_00032d_000000_001e3f_00006d_000301,
      0x001e41_00006d_000307_000000_001e43_00006d_000323_000000_001e45_00006e_000307,
      0x001e47_00006e_000323_000000_001e49_00006e_000331_000000_001e4b_00006e_00032d,
      0x001e4d_0000f5_000301_000000_001e4f_0000f5_000308_000000_001e51_00014d_000300,
      0x001e53_00014d_000301_000000_001e55_000070_000301_000000_001e57_000070_000307,
      0x001e59_000072_000307_000000_001e5b_000072_000323_000000_001e5d_001e5b_000304,
      0x001e5f_000072_000331_000000_001e61_000073_000307_000000_001e63_000073_000323,
      0x001e65_00015b_000307_000000_001e67_000161_000307_000000_001e69_001e63_000307,
      0x001e6b_000074_000307_000000_001e6d_000074_000323_000000_001e6f_000074_000331,
      0x001e71_000074_00032d_000000_001e73_000075_000324_000000_001e75_000075_000330,
      0x001e77_000075_00032d_000000_001e79_000169_000301_000000_001e7b_00016b_000308,
      0x001e7d_000076_000303_000000_001e7f_000076_000323_000000_001e81_000077_000300,
      0x001e83_000077_000301_000000_001e85_000077_000308_000000_001e87_000077_000307,
      0x001e89_000077_000323_000000_001e8b_000078_000307_000000_001e8d_000078_000308,
      0x001e8f_000079_000307_000000_001e91_00007a_000302_000000_001e93_00007a_000323,
      0x001e95_00007a_000331_000000_001e96_000068_000331_000000_001e97_000074_000308,
      0x001e98_000077_00030a_000000_001e99_000079_00030a_000000_001ea1_000061_000323,
      0x001ea3_000061_000309_000000_001ea5_0000e2_000301_000000_001ea7_0000e2_000300,
      0x001ea9_0000e2_000309_000000_001eab_0000e2_000303_000000_001ead_001ea1_000302,
      0x001eaf_000103_000301_000000_001eb1_000103_000300_000000_001eb3_000103_000309,
      0x001eb5_000103_000303_000000_001eb7_001ea1_000306_000000_001eb9_000065_000323,
      0x001ebb_000065_000309_000000_001ebd_000065_000303_000000_001ebf_0000ea_000301,
      0x001ec1_0000ea_000300_000000_001ec3_0000ea_000309_000000_001ec5_0000ea_000303,
      0x001ec7_001eb9_000302_000000_001ec9_000069_000309_000000_001ecb_000069_000323,
      0x001ecd_00006f_000323_000000_001ecf_00006f_000309_000000_001ed1_0000f4_000301,
      0x001ed3_0000f4_000300_000000_001ed5_0000f4_000309_000000_001ed7_0000f4_000303,
      0x001ed9_001ecd_000302_000000_001edb_0001a1_000301_000000_001edd_0001a1_000300,
      0x001edf_0001a1_000309_000000_001ee1_0001a1_000303_000000_001ee3_0001a1_000323,
      0x001ee5_000075_000323_000000_001ee7_000075_000309_000000_001ee9_0001b0_000301,
      0x001eeb_0001b0_000300_000000_001eed_0001b0_000309_000000_001eef_0001b0_000303,
      0x001ef1_0001b0_000323_000000_001ef3_000079_000300_000000_001ef5_000079_000323,
      0x001ef7_000079_000309_000000_001ef9_000079_000303_000000_001f00_0003b1_000313,
      0x001f01_0003b1_000314_000000_001f02_001f00_000300_000000_001f03_001f01_000300,
      0x001f04_001f00_000301_000000_001f05_001f01_000301_000000_001f06_001f00_000342,
      0x001f07_001f01_000342_000000_001f10_0003b5_000313_000000_001f11_0003b5_000314,
      0x001f12_001f10_000300_000000_001f13_001f11_000300_000000_001f14_001f10_000301,
      0x001f15_001f11_000301_000000_001f20_0003b7_000313_000000_001f21_0003b7_000314,
      0x001f22_001f20_000300_000000_001f23_001f21_000300_000000_001f24_001f20_000301,
      0x001f25_001f21_000301_000000_001f26_001f20_000342_000000_001f27_001f21_000342,
      0x001f30_0003b9_000313_000000_001f31_0003b9_000314_000000_001f32_001f30_000300,
      0x001f33_001f31_000300_000000_001f34_001f30_000301_000000_001f35_001f31_000301,
      0x001f36_001f30_000342_000000_001f37_001f31_000342_000000_001f40_0003bf_000313,
      0x001f41_0003bf_000314_000000_001f42_001f40_000300_000000_001f43_001f41_000300,
      0x001f44_001f40_000301_000000_001f45_001f41_000301_000000_001f50_0003c5_000313,
      0x001f51_0003c5_000314_000000_001f52_001f50_000300_000000_001f53_001f51_000300,
      0x001f54_001f50_000301_000000_001f55_001f51_000301_000000_001f56_001f50_000342,
      0x001f57_001f51_000342_000000_001f60_0003c9_000313_000000_001f61_0003c9_000314,
      0x001f62_001f60_000300_000000_001f63_001f61_000300_000000_001f64_001f60_000301,
      0x001f65_001f61_000301_000000_001f66_001f60_000342_000000_001f67_001f61_000342,
      0x001f70_0003b1_000300_000000_001f72_0003b5_000300_000000_001f74_0003b7_000300,
      0x001f76_0003b9_000300_000000_001f78_0003bf_000300_000000_001f7a_0003c5_000300,
      0x001f7c_0003c9_000300_000000_001fb0_0003b1_000306_000000_001fb1_0003b1_000304,
      0x001fb6_0003b1_000342_000000_001fc6_0003b7_000342_000000_001fd0_0003b9_000306,
      0x001fd1_0003b9_000304_000000_001fd2_0003ca_000300_000000_001fd6_0003b9_000342,
      0x001fd7_0003ca_000342_000000_001fe0_0003c5_000306_000000_001fe1_0003c5_000304,
      0x001fe2_0003cb_000300_000000_001fe4_0003c1_000313_000000_001fe5_0003c1_000314,
      0x001fe6_0003c5_000342_000000_001fe7_0003cb_000342_000000_001ff6_0003c9_000342,
      0x00219a_002190_000338_000000_00219b_002192_000338_000000_0021ae_002194_000338,
      0x0021cd_0021d0_000338_000000_0021ce_0021d4_000338_000000_0021cf_0021d2_000338,
      0x002204_002203_000338_000000_002209_002208_000338_000000_00220c_00220b_000338,
      0x002224_002223_000338_000000_002226_002225_000338_000000_002241_00223c_000338,
      0x002244_002243_000338_000000_002247_002245_000338_000000_002249_002248_000338,
      0x002260_00003d_000338_000000_002262_002261_000338_000000_00226d_00224d_000338,
      0x00226e_00003c_000338_000000_00226f_00003e_000338_000000_002270_002264_000338,
      0x002271_002265_000338_000000_002274_002272_000338_000000_002275_002273_000338,
      0x002278_002276_000338_000000_002279_002277_000338_000000_002280_00227a_000338,
      0x002281_00227b_000338_000000_002284_002282_000338_000000_002285_002283_000338,
      0x002288_002286_000338_000000_002289_002287_000338_000000_0022ac_0022a2_000338,
      0x0022ad_0022a8_000338_000000_0022ae_0022a9_000338_000000_0022af_0022ab_000338,
      0x0022e0_00227c_000338_000000_0022e1_00227d_000338_000000_0022e2_002291_000338,
      0x0022e3_002292_000338_000000_0022ea_0022b2_000338_000000_0022eb_0022b3_000338,
      0x0022ec_0022b4_000338_000000_0022ed_0022b5_000338_000000_00304c_00304b_003099,
      0x00304e_00304d_003099_000000_003050_00304f_003099_000000_003052_003051_003099,
      0x003054_003053_003099_000000_003056_003055_003099_000000_003058_003057_003099,
      0x00305a_003059_003099_000000_00305c_00305b_003099_000000_00305e_00305d_003099,
      0x003060_00305f_003099_000000_003062_003061_003099_000000_003065_003064_003099,
      0x003067_003066_003099_000000_003069_003068_003099_000000_003070_00306f_003099,
      0x003071_00306f_00309a_000000_003073_003072_003099_000000_003074_003072_00309a,
      0x003076_003075_003099_000000_003077_003075_00309a_000000_003079_003078_003099,
      0x00307a_003078_00309a_000000_00307c_00307b_003099_000000_00307d_00307b_00309a,
      0x003094_003046_003099_000000_00309e_00309d_003099_000000_0030ac_0030ab_003099,
      0x0030ae_0030ad_003099_000000_0030b0_0030af_003099_000000_0030b2_0030b1_003099,
      0x0030b4_0030b3_003099_000000_0030b6_0030b5_003099_000000_0030b8_0030b7_003099,
      0x0030ba_0030b9_003099_000000_0030bc_0030bb_003099_000000_0030be_0030bd_003099,
      0x0030c0_0030bf_003099_000000_0030c2_0030c1_003099_000000_0030c5_0030c4_003099,
      0x0030c7_0030c6_003099_000000_0030c9_0030c8_003099_000000_0030d0_0030cf_003099,
      0x0030d1_0030cf_00309a_000000_0030d3_0030d2_003099_000000_0030d4_0030d2_00309a,
      0x0030d6_0030d5_003099_000000_0030d7_0030d5_00309a_000000_0030d9_0030d8_003099,
      0x0030da_0030d8_00309a_000000_0030dc_0030db_003099_000000_0030dd_0030db_00309a,
      0x0030f4_0030a6_003099_000000_0030f7_0030ef_003099_000000_0030f8_0030f0_003099,
      0x0030f9_0030f1_003099_000000_0030fa_0030f2_003099_000000_0030fe_0030fd_003099,
      0x0105c9_0105d2_000307_000000_0105e4_0105da_000307_000000_01109a_011099_0110ba,
      0x01109c_01109b_0110ba_000000_0110ab_0110a5_0110ba_000000_01112e_011131_011127,
      0x01112f_011132_011127_000000_01134b_011347_01133e_000000_01134c_011347_011357,
      0x011383_011382_0113c9_000000_011385_011384_0113bb_000000_01138e_01138b_0113c2,
      0x011391_011390_0113c9_000000_0113c5_0113c2_0113c2_000000_0113c7_0113c2_0113b8,
      0x0113c8_0113c2_0113c9_000000_0114bb_0114b9_0114ba_000000_0114bc_0114b9_0114b0,
      0x0114be_0114b9_0114bd_000000_0115ba_0115b8_0115af_000000_0115bb_0115b9_0115af,
      0x011938_011935_011930_000000_016121_01611e_01611e_000000_016122_01611e_016129,
      0x016123_01611e_01611f_000000_016124_016129_01611f_000000_016125_01611e_016120,
      0x016126_016121_01611f_000000_016127_016122_01611f_000000_016128_016121_016120,
      0x016d68_016d67_016d67_000000_016d69_016d63_016d67_000000_016d6a_016d69_016d67]

/-- Runs of marks with one combining class other than zero: the class, the first mark and the last. -/
def combiningRuns : List (List Nat) :=
  Table.entries
    [0x000001_000334_000338_000000_000001_001cd4_001cd4_000000_000001_001ce2_001ce8,
      0x000001_0020d2_0020d3_000000_000001_0020d8_0020da_000000_000001_0020e5_0020e6,
      0x000001_0020ea_0020eb_000000_000001_010a39_010a39_000000_000001_016af0_016af4,
      0x000001_01bc9e_01bc9e_000000_000001_01d167_01d169_000000_000006_016ff0_016ff1,
      0x000007_00093c_00093c_000000_000007_0009bc_0009bc_000000_000007_000a3c_000a3c,
      0x000007_000abc_000abc_000000_000007_000b3c_000b3c_000000_000007_000c3c_000c3c,
      0x000007_000cbc_000cbc_000000_000007_001037_001037_000000_000007_001b34_001b34,
      0x000007_001be6_001be6_000000_000007_001c37_001c37_000000_000007_00a9b3_00a9b3,
      0x000007_0110ba_0110ba_000000_000007_011173_011173_000000_000007_0111ca_0111ca,
      0x000007_011236_011236_000000_000007_0112e9_0112e9_000000_000007_01133b_01133c,
      0x000007_011446_011446_000000_000007_0114c3_0114c3_000000_000007_0115c0_0115c0,
      0x000007_0116b7_0116b7_000000_000007_01183a_01183a_000000_000007_011943_011943,
      0x000007_011d42_011d42_000000_000007_01e94a_01e94a_000000_000008_003099_00309a,
      0x000009_00094d_00094d_000000_000009_0009cd_0009cd_000000_000009_000a4d_000a4d,
      0x000009_000acd_000acd_000000_000009_000b4d_000b4d_000000_000009_000bcd_000bcd,
      0x000009_000c4d_000c4d_000000_000009_000ccd_000ccd_000000_000009_000d3b_000d3c,
      0x000009_000d4d_000d4d_000000_000009_000dca_000dca_000000_000009_000e3a_000e3a,
      0x000009_000eba_000eba_000000_000009_000f84_000f84_000000_000009_001039_00103a,
      0x000009_001714_001715_000000_000009_001734_001734_000000_000009_0017d2_0017d2,
      0x000009_001a60_001a60_000000_000009_001b44_001b44_000000_000009_001baa_001bab,
      0x000009_001bf2_001bf3_000000_000009_002d7f_002d7f_000000_000009_00a806_00a806,
      0x000009_00a82c_00a82c_000000_000009_00a8c4_00a8c4_000000_000009_00a953_00a953,
      0x000009_00a9c0_00a9c0_000000_000009_00aaf6_00aaf6_000000_000009_00abed_00abed,
      0x000009_010a3f_010a3f_000000_000009_011046_011046_000000_000009_011070_011070,
      0x000009_01107f_01107f_000000_000009_0110b9_0110b9_000000_000009_011133_011134,
      0x000009_0111c0_0111c0_000000_000009_011235_011235_000000_000009_0112ea_0112ea,
      0x000009_01134d_01134d_000000_000009_0113ce_0113d0_000000_000009_011442_011442,
      0x000009_0114c2_0114c2_000000_000009_0115bf_0115bf_000000_000009_01163f_01163f,
      0x000009_0116b6_0116b6_000000_000009_01172b_01172b_000000_000009_011839_011839,
      0x000009_01193d_01193e_000000_000009_0119e0_0119e0_000000_000009_011a34_011a34,
      0x000009_011a47_011a47_000000_000009_011a99_011a99_000000_000009_011c3f_011c3f,
      0x000009_011d44_011d45_000000_000009_011d97_011d97_000000_000009_011f41_011f42,
      0x000009_01612f_01612f_000000_00000a_0005b0_0005b0_000000_00000b_0005b1_0005b1,
      0x00000c_0005b2_0005b2_000000_00000d_0005b3_0005b3_000000_00000e_0005b4_0005b4,
      0x00000f_0005b5_0005b5_000000_000010_0005b6_0005b6_000000_000011_0005b7_0005b7,
      0x000012_0005b8_0005b8_000000_000012_0005c7_0005c7_000000_000013_0005b9_0005ba,
      0x000014_0005bb_0005bb_000000_000015_0005bc_0005bc_000000_000016_0005bd_0005bd,
      0x000017_0005bf_0005bf_000000_000018_0005c1_0005c1_000000_000019_0005c2_0005c2,
      0x00001a_00fb1e_00fb1e_000000_00001b_00064b_00064b_000000_00001b_0008f0_0008f0,
      0x00001c_00064c_00064c_000000_00001c_0008f1_0008f1_000000_00001d_00064d_00064d,
      0x00001d_0008f2_0008f2_000000_00001e_000618_000618_000000_00001e_00064e_00064e,
      0x00001f_000619_000619_000000_00001f_00064f_00064f_000000_000020_00061a_00061a,
      0x000020_000650_000650_000000_000021_000651_000651_000000_000022_000652_000652,
      0x000023_000670_000670_000000_000024_000711_000711_000000_000054_000c55_000c55,
      0x00005b_000c56_000c56_000000_000067_000e38_000e39_000000_00006b_000e48_000e4b,
      0x000076_000eb8_000eb9_000000_00007a_000ec8_000ecb_000000_000081_000f71_000f71,
      0x000082_000f72_000f72_000000_000082_000f7a_000f7d_000000_000082_000f80_000f80,
      0x000084_000f74_000f74_000000_0000ca_000321_000322_000000_0000ca_000327_000328,
      0x0000ca_001dd0_001dd0_000000_0000d6_001dce_001dce_000000_0000d8_00031b_00031b,
      0x0000d8_000f39_000f39_000000_0000d8_01d165_01d166_000000_0000d8_01d16e_01d172,
      0x0000da_001dfa_001dfa_000000_0000da_00302a_00302a_000000_0000dc_000316_000319,
      0x0000dc_00031c_000320_000000_0000dc_000323_000326_000000_0000dc_000329_000333,
      0x0000dc_000339_00033c_000000_0000dc_000347_000349_000000_0000dc_00034d_00034e,
      0x0000dc_000353_000356_000000_0000dc_000359_00035a_000000_0000dc_000591_000591,
      0x0000dc_000596_000596_000000_0000dc_00059b_00059b_000000_0000dc_0005a2_0005a7,
      0x0000dc_0005aa_0005aa_000000_0000dc_0005c5_0005c5_000000_0000dc_000655_000656,
      0x0000dc_00065c_00065c_000000_0000dc_00065f_00065f_000000_0000dc_0006e3_0006e3,
      0x0000dc_0006ea_0006ea_000000_0000dc_0006ed_0006ed_000000_0000dc_000731_000731,
      0x0000dc_000734_000734_000000_0000dc_000737_000739_000000_0000dc_00073b_00073c,
      0x0000dc_00073e_00073e_000000_0000dc_000742_000742_000000_0000dc_000744_000744,
      0x0000dc_000746_000746_000000_0000dc_000748_000748_000000_0000dc_0007f2_0007f2,
      0x0000dc_0007fd_0007fd_000000_0000dc_000859_00085b_000000_0000dc_000899_00089b,
      0x0000dc_0008cf_0008d3_000000_0000dc_0008e3_0008e3_000000_0000dc_0008e6_0008e6,
      0x0000dc_0008e9_0008e9_000000_0000dc_0008ed_0008ef_000000_0000dc_0008f6_0008f6,
      0x0000dc_0008f9_0008fa_000000_0000dc_000952_000952_000000_0000dc_000f18_000f19,
      0x0000dc_000f35_000f35_000000_0000dc_000f37_000f37_000000_0000dc_000fc6_000fc6,
      0x0000dc_00108d_00108d_000000_0000dc_00193b_00193b_000000_0000dc_001a18_001a18,
      0x0000dc_001a7f_001a7f_000000_0000dc_001ab5_001aba_000000_0000dc_001abd_001abd,
      0x0000dc_001abf_001ac0_000000_0000dc_001ac3_001ac4_000000_0000dc_001aca_001aca,
      0x0000dc_001add_001add_000000_0000dc_001ae6_001ae6_000000_0000dc_001b6c_001b6c,
      0x0000dc_001cd5_001cd9_000000_0000dc_001cdc_001cdf_000000_0000dc_001ced_001ced,
      0x0000dc_001dc2_001dc2_000000_0000dc_001dca_001dca_000000_0000dc_001dcf_001dcf,
      0x0000dc_001df9_001df9_000000_0000dc_001dfd_001dfd_000000_0000dc_001dff_001dff,
      0x0000dc_0020e8_0020e8_000000_0000dc_0020ec_0020ef_000000_0000dc_00a92b_00a92d,
      0x0000dc_00aab4_00aab4_000000_0000dc_00fe27_00fe2d_000000_0000dc_0101fd_0101fd,
      0x0000dc_0102e0_0102e0_000000_0000dc_010a0d_010a0d_000000_0000dc_010a3a_010a3a,
      0x0000dc_010ae6_010ae6_000000_0000dc_010efa_010efb_000000_0000dc_010efd_010eff,
      0x0000dc_010f46_010f47_000000_0000dc_010f4b_010f4b_000000_0000dc_010f4d_010f50,
      0x0000dc_010f83_010f83_000000_0000dc_010f85_010f85_000000_0000dc_01d17b_01d182,
      0x0000dc_01d18a_01d18b_000000_0000dc_01e4ee_01e4ee_000000_0000dc_01e5ef_01e5ef,
      0x0000dc_01e8d0_01e8d6_000000_0000de_00059a_00059a_000000_0000de_0005ad_0005ad,
      0x0000de_001939_001939_000000_0000de_00302d_00302d_000000_0000e0_00302e_00302f,
      0x0000e2_01d16d_01d16d_000000_0000e4_0005ae_0005ae_000000_0000e4_0018a9_0018a9,
      0x0000e4_001df7_001df8_000000_0000e4_00302b_00302b_000000_0000e6_000300_000314,
      0x0000e6_00033d_000346_000000_0000e6_00034a_00034c_000000_0000e6_000350_000352,
      0x0000e6_000357_000357_000000_0000e6_00035b_00035b_000000_0000e6_000363_00036f,
      0x0000e6_000483_000487_000000_0000e6_000592_000595_000000_0000e6_000597_000599,
      0x0000e6_00059c_0005a1_000000_0000e6_0005a8_0005a9_000000_0000e6_0005ab_0005ac,
      0x0000e6_0005af_0005af_000000_0000e6_0005c4_0005c4_000000_0000e6_000610_000617,
      0x0000e6_000653_000654_000000_0000e6_000657_00065b_000000_0000e6_00065d_00065e,
      0x0000e6_0006d6_0006dc_000000_0000e6_0006df_0006e2_000000_0000e6_0006e4_0006e4,
      0x0000e6_0006e7_0006e8_000000_0000e6_0006eb_0006ec_000000_0000e6_000730_000730,
      0x0000e6_000732_000733_000000_0000e6_000735_000736_000000_0000e6_00073a_00073a,
      0x0000e6_00073d_00073d_000000_0000e6_00073f_000741_000000_0000e6_000743_000743,
      0x0000e6_000745_000745_000000_0000e6_000747_000747_000000_0000e6_000749_00074a,
      0x0000e6_0007eb_0007f1_000000_0000e6_0007f3_0007f3_000000_0000e6_000816_000819,
      0x0000e6_00081b_000823_000000_0000e6_000825_000827_000000_0000e6_000829_00082d,
      0x0000e6_000897_000898_000000_0000e6_00089c_00089f_000000_0000e6_0008ca_0008ce,
      0x0000e6_0008d4_0008e1_000000_0000e6_0008e4_0008e5_000000_0000e6_0008e7_0008e8,
      0x0000e6_0008ea_0008ec_000000_0000e6_0008f3_0008f5_000000_0000e6_0008f7_0008f8,
      0x0000e6_0008fb_0008ff_000000_0000e6_000951_000951_000000_0000e6_000953_000954,
      0x0000e6_0009fe_0009fe_000000_0000e6_000f82_000f83_000000_0000e6_000f86_000f87,
      0x0000e6_00135d_00135f_000000_0000e6_0017dd_0017dd_000000_0000e6_00193a_00193a,
      0x0000e6_001a17_001a17_000000_0000e6_001a75_001a7c_000000_0000e6_001ab0_001ab4,
      0x0000e6_001abb_001abc_000000_0000e6_001ac1_001ac2_000000_0000e6_001ac5_001ac9,
      0x0000e6_001acb_001adc_000000_0000e6_001ade_001ae5_000000_0000e6_001ae7_001aea,
      0x0000e6_001aec_001af0_000000_0000e6_001b6b_001b6b_000000_0000e6_001b6d_001b73,
      0x0000e6_001cd0_001cd2_000000_0000e6_001cda_001cdb_000000_0000e6_001ce0_001ce0,
      0x0000e6_001cf4_001cf4_000000_0000e6_001cf8_001cf9_000000_0000e6_001dc0_001dc1,
      0x0000e6_001dc3_001dc9_000000_0000e6_001dcb_001dcc_000000_0000e6_001dd1_001df5,
      0x0000e6_001dfb_001dfb_000000_0000e6_001dfe_001dfe_000000_0000e6_0020d0_0020d1,
      0x0000e6_0020d4_0020d7_000000_0000e6_0020db_0020dc_000000_0000e6_0020e1_0020e1,
      0x0000e6_0020e7_0020e7_000000_0000e6_0020e9_0020e9_000000_0000e6_0020f0_0020f0,
      0x0000e6_002cef_002cf1_000000_0000e6_002de0_002dff_000000_0000e6_00a66f_00a66f,
      0x0000e6_00a674_00a67d_000000_0000e6_00a69e_00a69f_000000_0000e6_00a6f0_00a6f1,
      0x0000e6_00a8e0_00a8f1_000000_0000e6_00aab0_00aab0_000000_0000e6_00aab2_00aab3,
      0x0000e6_00aab7_00aab8_000000_0000e6_00aabe_00aabf_000000_0000e6_00aac1_00aac1,
      0x0000e6_00fe20_00fe26_000000_0000e6_00fe2e_00fe2f_000000_0000e6_010376_01037a,
      0x0000e6_010a0f_010a0f_000000_0000e6_010a38_010a38_000000_0000e6_010ae5_010ae5,
      0x0000e6_010d24_010d27_000000_0000e6_010d69_010d6d_000000_0000e6_010eab_010eac,
      0x0000e6_010ef0_010ef9_000000_0000e6_010f48_010f4a_000000_0000e6_010f4c_010f4c,
      0x0000e6_010f82_010f82_000000_0000e6_010f84_010f84_000000_0000e6_011100_011102,
      0x0000e6_011366_011374_000000_0000e6_01145e_01145e_000000_0000e6_016b30_016b36,
      0x0000e6_01d185_01d189_000000_0000e6_01d1aa_01d1ad_000000_0000e6_01d242_01d244,
      0x0000e6_01e000_01e08f_000000_0000e6_01e130_01e136_000000_0000e6_01e2ae_01e2ae,
      0x0000e6_01e2ec_01e2ef_000000_0000e6_01e4ef_01e4ef_000000_0000e6_01e5ee_01e5ee,
      0x0000e6_01e6e3_01e6e3_000000_0000e6_01e6e6_01e6e6_000000_0000e6_01e6ee_01e6ef,
      0x0000e6_01e6f5_01e6f5_000000_0000e6_01e944_01e949_000000_0000e8_000315_000315,
      0x0000e8_00031a_00031a_000000_0000e8_000358_000358_000000_0000e8_001df6_001df6,
      0x0000e8_00302c_00302c_000000_0000e8_01e4ec_01e4ed_000000_0000e9_00035c_00035c,
      0x0000e9_00035f_00035f_000000_0000e9_000362_000362_000000_0000e9_001dfc_001dfc,
      0x0000ea_00035d_00035e_000000_0000ea_000360_000361_000000_0000ea_001aeb_001aeb,
      0x0000ea_001dcd_001dcd]

/-- Combining marks, with which no name begins. -/
def marks : List Table.Range :=
  Table.ranges
    [0x000300_00036f_000000_000483_000489_000000_000591_0005bd_000000_0005bf_000000_0005c1_0005c2,
      0x0005c4_0005c5_000000_0005c7_0005c9_000000_000610_00061a_000000_00064b_00065f_000000_000670,
      0x0006d6_0006dc_000000_0006df_0006e4_000000_0006e7_0006e8_000000_0006ea_0006ed_000000_000711,
      0x000730_00074a_000000_0007a6_0007b0_000000_0007eb_0007f3_000000_0007fd_000000_000816_000819,
      0x00081b_000823_000000_000825_000827_000000_000829_00082d_000000_000859_00085b_000000_000897_00089f,
      0x0008ca_000903_000000_00093a_00093c_000000_00093e_00094f_000000_000951_000957_000000_000962_000963,
      0x000981_000983_000000_0009bc_000000_0009be_0009cd_000000_0009d7_000000_0009e2_0009e3,
      0x0009fe_000a03_000000_000a3c_000a51_000000_000a70_000a71_000000_000a75_000000_000a81_000a83,
      0x000abc_000000_000abe_000acd_000000_000ae2_000ae3_000000_000afa_000b03_000000_000b3c,
      0x000b3e_000b57_000000_000b62_000b63_000000_000b82_000000_000bbe_000bcd_000000_000bd7,
      0x000c00_000c04_000000_000c3c_000000_000c3e_000c56_000000_000c62_000c63_000000_000c81_000c83,
      0x000cbc_000000_000cbe_000cd6_000000_000ce2_000ce3_000000_000cf3_000d03_000000_000d3b_000d3c,
      0x000d3e_000d4d_000000_000d57_000000_000d62_000d63_000000_000d81_000d83_000000_000dca_000ddf,
      0x000df2_000df3_000000_000e31_000000_000e34_000e3a_000000_000e47_000e4e_000000_000eb1,
      0x000eb4_000ebc_000000_000ec8_000ece_000000_000f18_000f19_000000_000f35_000000_000f37_000000_000f39,
      0x000f3e_000f3f_000000_000f71_000f84_000000_000f86_000f87_000000_000f8d_000fbc_000000_000fc6,
      0x00102b_00103e_000000_001056_001059_000000_00105e_001060_000000_001062_001064_000000_001067_00106d,
      0x001071_001074_000000_001082_00108d_000000_00108f_000000_00109a_00109d_000000_00135d_00135f,
      0x001712_001715_000000_001732_001734_000000_001752_001753_000000_001772_001773_000000_0017b6_0017d3,
      0x0017dd_000000_001885_001886_000000_0018a9_000000_001920_00193b_000000_001a17_001a1b,
      0x001a55_001a7f_000000_001ab0_001b04_000000_001b34_001b44_000000_001b6b_001b73_000000_001b80_001b82,
      0x001ba1_001bad_000000_001be6_001bf3_000000_001c24_001c37_000000_001cd0_001cd2_000000_001cd4_001ce8,
      0x001ced_000000_001cf4_000000_001cf7_001cf9_000000_001dc0_001dff_000000_0020d0_0020f0,
      0x002cef_002cf1_000000_002d7f_000000_002de0_002dff_000000_00302a_00302f_000000_003099_00309a,
      0x00a66f_00a672_000000_00a674_00a67d_000000_00a69e_00a69f_000000_00a6f0_00a6f1_000000_00a802,
      0x00a806_000000_00a80b_000000_00a823_00a827_000000_00a82c_000000_00a880_00a881_000000_00a8b4_00a8c5,
      0x00a8e0_00a8f1_000000_00a8ff_000000_00a926_00a92d_000000_00a947_00a953_000000_00a980_00a983,
      0x00a9b3_00a9c0_000000_00a9e5_000000_00aa29_00aa36_000000_00aa43_000000_00aa4c_00aa4d,
      0x00aa7b_00aa7d_000000_00aab0_000000_00aab2_00aab4_000000_00aab7_00aab8_000000_00aabe_00aabf,
      0x00aac1_000000_00aaeb_00aaef_000000_00aaf5_00aaf6_000000_00abe3_00abea_000000_00abec_00abed,
      0x00fb1e_000000_00fe20_00fe2f_000000_0101fd_000000_0102e0_000000_010376_01037a_000000_010a01_010a0f,
      0x010a38_010a3f_000000_010ae5_010ae6_000000_010d24_010d27_000000_010d69_010d6d_000000_010eab_010eac,
      0x010ef0_010eff_000000_010f46_010f50_000000_010f82_010f85_000000_011000_011002_000000_011038_011046,
      0x011070_000000_011073_011074_000000_01107f_011082_000000_0110b0_0110ba_000000_0110c2,
      0x011100_011102_000000_011127_011134_000000_011145_011146_000000_011173_000000_011180_011182,
      0x0111b3_0111c0_000000_0111c9_0111cc_000000_0111ce_0111cf_000000_01122c_011237_000000_01123e,
      0x011241_000000_0112df_0112ea_000000_011300_011303_000000_01133b_01133c_000000_01133e_01134d,
      0x011357_000000_011362_011374_000000_0113b8_0113d0_000000_0113d2_000000_0113e1_0113e2,
      0x011435_011446_000000_01145e_000000_0114b0_0114c3_000000_0115af_0115c0_000000_0115dc_0115dd,
      0x011630_011640_000000_0116ab_0116b7_000000_01171d_01172b_000000_01182c_01183a_000000_011930_01193e,
      0x011940_000000_011942_011943_000000_0119d1_0119e0_000000_0119e4_000000_011a01_011a0a,
      0x011a33_011a39_000000_011a3b_011a3e_000000_011a47_000000_011a51_011a5b_000000_011a8a_011a99,
      0x011b60_011b67_000000_011c2f_011c3f_000000_011c92_011cb6_000000_011d31_011d45_000000_011d47,
      0x011d8a_011d97_000000_011ef3_011ef6_000000_011f00_011f01_000000_011f03_000000_011f34_011f42,
      0x011f5a_000000_013440_000000_013447_013455_000000_01611e_01612f_000000_016af0_016af4,
      0x016b30_016b36_000000_016f4f_000000_016f51_016f92_000000_016fe4_016ff1_000000_01bc9d_01bc9e,
      0x01cf00_01cf46_000000_01d165_01d169_000000_01d16d_01d182_000000_01d185_01d18b_000000_01d1aa_01d1ad,
      0x01d242_01d244_000000_01da00_01da36_000000_01da3b_01da6c_000000_01da75_000000_01da84,
      0x01da9b_01daaf_000000_01e000_01e08f_000000_01e130_01e136_000000_01e2ae_000000_01e2ec_01e2ef,
      0x01e4ec_01e4ef_000000_01e5ee_01e5ef_000000_01e6e3_000000_01e6e6_000000_01e6ee_01e6ef_000000_01e6f5,
      0x01e8d0_01e8d6_000000_01e944_01e94a]

end SenderPolicy.Idna
