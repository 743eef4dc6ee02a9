import SenderPolicy.Idna.Table

/-!
# Table of joining behaviour

The letters of cursive scripts by the sides on which they join, and the characters that do not break a join.
-/

namespace SenderPolicy.Idna

/-- Letters that join the letter after them. -/
def leftJoining : List Table.Range :=
  Table.ranges
    [0x00a872_000000_010acd_000000_010ad7_000000_010d00_000000_010fcb]

/-- Letters that join the letter before them. -/
def rightJoining : List Table.Range :=
  Table.ranges
    [0x000622_000625_000000_000627_000000_000629_000000_00062f_000632_000000_000648_000000_000671_000673,
      0x000688_000699_000000_0006c0_000000_0006c3_0006cb_000000_0006cd_000000_0006cf_000000_0006d2_0006d3,
      0x0006d5_000000_0006ee_0006ef_000000_000710_000000_000715_000719_000000_00071e_000000_000728,
      0x00072a_000000_00072c_000000_00072f_000000_00074d_000000_000759_00075b_000000_00076b_00076c,
      0x000771_000000_000773_000774_000000_000778_000779_000000_000840_000000_000846_000847_000000_000849,
      0x000854_000000_000856_000858_000000_000867_000000_000869_000882_000000_00088e_000000_0008aa_0008ac,
      0x0008ae_000000_0008b1_0008b2_000000_0008b9_000000_010ac5_000000_010ac7_000000_010ac9_010aca,
      0x010ace_010ad2_000000_010add_000000_010ae1_000000_010ae4_000000_010aef_000000_010b81,
      0x010b83_010b85_000000_010b89_000000_010b8c_000000_010b8e_010b8f_000000_010b91_000000_010ba9_010bac,
      0x010d22_000000_010ec2_000000_010f33_000000_010f54_000000_010f74_010f75_000000_010fb4_010fb6,
      0x010fb9_010fba_000000_010fbd_000000_010fc2_010fc3_000000_010fc9]

/-- Letters that join on both sides. -/
def dualJoining : List Table.Range :=
  Table.ranges
    [0x000620_000000_000626_000000_000628_000000_00062a_00062e_000000_000633_00063f_000000_000641_000647,
      0x000649_00064a_000000_00066e_00066f_000000_000679_000687_000000_00069a_0006bf_000000_0006c1_0006c2,
      0x0006cc_000000_0006ce_000000_0006d0_0006d1_000000_0006fa_0006fc_000000_0006ff_000000_000712_000714,
      0x00071a_00071d_000000_00071f_000727_000000_000729_000000_00072b_000000_00072d_00072e,
      0x00074e_000758_000000_00075c_00076a_000000_00076d_000770_000000_000772_000000_000775_000777,
      0x00077a_00077f_000000_0007ca_0007ea_000000_000841_000845_000000_000848_000000_00084a_000853,
      0x000855_000000_000860_000000_000862_000865_000000_000868_000000_000886_000000_000889_00088d,
      0x00088f_000000_0008a0_0008a9_000000_0008af_0008b0_000000_0008b3_0008b8_000000_0008ba_0008c8,
      0x001807_000000_001820_001878_000000_001887_0018a8_000000_0018aa_000000_00a840_00a871,
      0x010ac0_010ac4_000000_010ad3_010ad6_000000_010ad8_010adc_000000_010ade_010ae0_000000_010aeb_010aee,
      0x010b80_000000_010b82_000000_010b86_010b88_000000_010b8a_010b8b_000000_010b8d_000000_010b90,
      0x010bad_010bae_000000_010d01_010d21_000000_010d23_000000_010ec3_010ec4_000000_010ec6_010ecf,
      0x010ed9_000000_010f30_010f32_000000_010f34_010f44_000000_010f51_010f53_000000_010f70_010f73,
      0x010f76_010f81_000000_010fb0_000000_010fb2_010fb3_000000_010fb8_000000_010fbb_010fbc,
      0x010fbe_010fbf_000000_010fc1_000000_010fc4_000000_010fca_000000_01e922_01e943]

/-- Characters that do not break a join. -/
def transparent : List Table.Range :=
  Table.ranges
    [0x000300_00036f_000000_000483_000489_000000_000591_0005bd_000000_0005bf_000000_0005c1_0005c2,
      0x0005c4_0005c5_000000_0005c7_0005c9_000000_000610_00061a_000000_00064b_00065f_000000_000670,
      0x0006d6_0006dc_000000_0006df_0006e4_000000_0006e7_0006e8_000000_0006ea_0006ed_000000_000711,
      0x000730_00074a_000000_0007a6_0007b0_000000_0007eb_0007f3_000000_0007fd_000000_000816_000819,
      0x00081b_000823_000000_000825_000827_000000_000829_00082d_000000_000859_00085b_000000_000897_00089f,
      0x0008ca_000902_000000_00093a_000000_00093c_000000_000941_000948_000000_00094d_000000_000951_000957,
      0x000962_000963_000000_000981_000000_0009bc_000000_0009c1_0009c4_000000_0009cd_000000_0009e2_0009e3,
      0x0009fe_000a02_000000_000a3c_000000_000a41_000a51_000000_000a70_000a71_000000_000a75,
      0x000a81_000a82_000000_000abc_000000_000ac1_000ac8_000000_000acd_000000_000ae2_000ae3,
      0x000afa_000b01_000000_000b3c_000000_000b3f_000000_000b41_000b44_000000_000b4d_000b56,
      0x000b62_000b63_000000_000b82_000000_000bc0_000000_000bcd_000000_000c00_000000_000c04_000000_000c3c,
      0x000c3e_000c40_000000_000c46_000c56_000000_000c62_000c63_000000_000c81_000000_000cbc_000000_000cbf,
      0x000cc6_000000_000ccc_000ccd_000000_000ce2_000ce3_000000_000d00_000d01_000000_000d3b_000d3c,
      0x000d41_000d44_000000_000d4d_000000_000d62_000d63_000000_000d81_000000_000dca_000000_000dd2_000dd6,
      0x000e31_000000_000e34_000e3a_000000_000e47_000e4e_000000_000eb1_000000_000eb4_000ebc,
      0x000ec8_000ece_000000_000f18_000f19_000000_000f35_000000_000f37_000000_000f39_000000_000f71_000f7e,
      0x000f80_000f84_000000_000f86_000f87_000000_000f8d_000fbc_000000_000fc6_000000_00102d_001030,
      0x001032_001037_000000_001039_00103a_000000_00103d_00103e_000000_001058_001059_000000_00105e_001060,
      0x001071_001074_000000_001082_000000_001085_001086_000000_00108d_000000_00109d_000000_00135d_00135f,
      0x001712_001714_000000_001732_001733_000000_001752_001753_000000_001772_001773_000000_0017b7_0017bd,
      0x0017c6_000000_0017c9_0017d3_000000_0017dd_000000_001885_001886_000000_0018a9_000000_001920_001922,
      0x001927_001928_000000_001932_000000_001939_00193b_000000_001a17_001a18_000000_001a1b_000000_001a56,
      0x001a58_001a60_000000_001a62_000000_001a65_001a6c_000000_001a73_001a7f_000000_001ab0_001b03,
      0x001b34_000000_001b36_001b3a_000000_001b3c_000000_001b42_000000_001b6b_001b73_000000_001b80_001b81,
      0x001ba2_001ba5_000000_001ba8_001ba9_000000_001bab_001bad_000000_001be6_000000_001be8_001be9,
      0x001bed_000000_001bef_001bf1_000000_001c2c_001c33_000000_001c36_001c37_000000_001cd0_001cd2,
      0x001cd4_001ce0_000000_001ce2_001ce8_000000_001ced_000000_001cf4_000000_001cf8_001cf9,
      0x001dc0_001dff_000000_0020d0_0020f0_000000_002cef_002cf1_000000_002d7f_000000_002de0_002dff,
      0x00302a_00302d_000000_003099_00309a_000000_00a66f_00a672_000000_00a674_00a67d_000000_00a69e_00a69f,
      0x00a6f0_00a6f1_000000_00a802_000000_00a806_000000_00a80b_000000_00a825_00a826_000000_00a82c,
      0x00a8c4_00a8c5_000000_00a8e0_00a8f1_000000_00a8ff_000000_00a926_00a92d_000000_00a947_00a951,
      0x00a980_00a982_000000_00a9b3_000000_00a9b6_00a9b9_000000_00a9bc_00a9bd_000000_00a9e5,
      0x00aa29_00aa2e_000000_00aa31_00aa32_000000_00aa35_00aa36_000000_00aa43_000000_00aa4c_000000_00aa7c,
      0x00aab0_000000_00aab2_00aab4_000000_00aab7_00aab8_000000_00aabe_00aabf_000000_00aac1,
      0x00aaec_00aaed_000000_00aaf6_000000_00abe5_000000_00abe8_000000_00abed_000000_00fb1e,
      0x00fe20_00fe2f_000000_0101fd_000000_0102e0_000000_010376_01037a_000000_010a01_010a0f,
      0x010a38_010a3f_000000_010ae5_010ae6_000000_010d24_010d27_000000_010d69_010d6d_000000_010eab_010eac,
      0x010ef0_010eff_000000_010f46_010f50_000000_010f82_010f85_000000_011001_000000_011038_011046,
      0x011070_000000_011073_011074_000000_01107f_011081_000000_0110b3_0110b6_000000_0110b9_0110ba,
      0x0110c2_000000_011100_011102_000000_011127_01112b_000000_01112d_011134_000000_011173,
      0x011180_011181_000000_0111b6_0111be_000000_0111c9_0111cc_000000_0111cf_000000_01122f_011231,
      0x011234_000000_011236_011237_000000_01123e_000000_011241_000000_0112df_000000_0112e3_0112ea,
      0x011300_011301_000000_01133b_01133c_000000_011340_000000_011366_011374_000000_0113bb_0113c0,
      0x0113ce_000000_0113d0_000000_0113d2_000000_0113e1_0113e2_000000_011438_01143f_000000_011442_011444,
      0x011446_000000_01145e_000000_0114b3_0114b8_000000_0114ba_000000_0114bf_0114c0_000000_0114c2_0114c3,
      0x0115b2_0115b5_000000_0115bc_0115bd_000000_0115bf_0115c0_000000_0115dc_0115dd_000000_011633_01163a,
      0x01163d_000000_01163f_011640_000000_0116ab_000000_0116ad_000000_0116b0_0116b5_000000_0116b7,
      0x01171d_000000_01171f_000000_011722_011725_000000_011727_01172b_000000_01182f_011837,
      0x011839_01183a_000000_01193b_01193c_000000_01193e_000000_011943_000000_0119d4_0119db_000000_0119e0,
      0x011a01_011a0a_000000_011a33_011a38_000000_011a3b_011a3e_000000_011a47_000000_011a51_011a56,
      0x011a59_011a5b_000000_011a8a_011a96_000000_011a98_011a99_000000_011b60_000000_011b62_011b64,
      0x011b66_000000_011c30_011c3d_000000_011c3f_000000_011c92_011ca7_000000_011caa_011cb0,
      0x011cb2_011cb3_000000_011cb5_011cb6_000000_011d31_011d45_000000_011d47_000000_011d90_011d91,
      0x011d95_000000_011d97_000000_011ef3_011ef4_000000_011f00_011f01_000000_011f36_011f3a_000000_011f40,
      0x011f42_000000_011f5a_000000_013440_000000_013447_013455_000000_01611e_016129_000000_01612d_01612f,
      0x016af0_016af4_000000_016b30_016b36_000000_016f4f_000000_016f8f_016f92_000000_016fe4,
      0x01bc9d_01bc9e_000000_01cf00_01cf46_000000_01d167_01d169_000000_01d17b_01d182_000000_01d185_01d18b,
      0x01d1aa_01d1ad_000000_01d242_01d244_000000_01da00_01da36_000000_01da3b_01da6c_000000_01da75,
      0x01da84_000000_01da9b_01daaf_000000_01e000_01e08f_000000_01e130_01e136_000000_01e2ae,
      0x01e2ec_01e2ef_000000_01e4ec_01e4ef_000000_01e5ee_01e5ef_000000_01e6e3_000000_01e6e6,
      0x01e6ee_01e6ef_000000_01e6f5_000000_01e8d0_01e8d6_000000_01e944_01e94b]

end SenderPolicy.Idna
